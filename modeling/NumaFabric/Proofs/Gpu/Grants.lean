import Mathlib.Data.List.Induction
import NumaFabric.Proofs.Gpu.Inventory
import NumaFabric.Proofs.Gpu.Ownership
import NumaFabric.Proofs.Store.Listed
/-!
Runs of the scheduler. Main statement: after any calls, a client owns a GPU exactly if it acquired it
and nothing since has given the GPU back, and whatever is asked about the GPUs of the inventory is
answered accordingly.
-/

namespace NumaFabric

namespace Scheduler

inductive Call where
  | acquire (uuid : String) (client : ClientId)
  | release (uuid : String) (client : ClientId)
  | releaseAll (client : ClientId)
deriving DecidableEq

inductive Reply where
  | done
  | released (count : Nat)
  | failed (cause : SchedulerError)
deriving DecidableEq

/-- The reply to an operation and the scheduler after it, which is the one before if it failed. -/
def conclude (s : Scheduler) : Except SchedulerError Scheduler → Reply × Scheduler
  | .ok s' => (.done, s')
  | .error e => (.failed e, s)

def perform (s : Scheduler) : Call → Reply × Scheduler
  | .acquire uuid client => s.conclude (s.acquire uuid client)
  | .release uuid client => s.conclude (s.release uuid client)
  | .releaseAll client => (.released (s.releaseAll client).1, (s.releaseAll client).2)

def run (s : Scheduler) (calls : List Call) : Scheduler :=
  calls.foldl (fun s call => (s.perform call).2) s

def history (s : Scheduler) : List Call → List (Call × Reply)
  | [] => []
  | call :: calls => (call, (s.perform call).1) :: (s.perform call).2.history calls

theorem run_concat (s : Scheduler) (calls : List Call) (call : Call) :
    s.run (calls ++ [call]) = ((s.run calls).perform call).2 := by
  simp [run]

theorem history_concat (s : Scheduler) (calls : List Call) (call : Call) :
    s.history (calls ++ [call]) =
      s.history calls ++ [(call, ((s.run calls).perform call).1)] := by
  induction calls generalizing s with
  | nil => rfl
  | cons first calls ih =>
      rw [List.cons_append, history, ih, history, List.cons_append]
      rfl

/-- A call that takes GPU `u` from client `c`, if `c` owns it. -/
def TakesBack (u : String) (c : ClientId) : Call × Reply → Prop
  | (.release v _, .done) => v = u
  | (.releaseAll d, .released _) => d = c
  | _ => False

/-- Client `c` acquired GPU `u`, and nothing since the last time it did has taken `u` back. -/
def Keeps (u : String) (c : ClientId) (log : List (Call × Reply)) : Prop :=
  ∃ before after, log = before ++ (.acquire u c, .done) :: after ∧
    (.acquire u c, .done) ∉ after ∧ ∀ e ∈ after, ¬ TakesBack u c e

theorem not_keeps_nil (u : String) (c : ClientId) : ¬ Keeps u c [] := by
  rintro ⟨before, after, hlog, -⟩
  simp at hlog

theorem keeps_concat_iff {u : String} {c : ClientId} {log : List (Call × Reply)}
    {e : Call × Reply} :
    Keeps u c (log ++ [e]) ↔
      e = (.acquire u c, .done) ∨ (Keeps u c log ∧ ¬ TakesBack u c e) := by
  constructor
  · rintro ⟨before, after, hlog, hlast, hkept⟩
    rcases List.eq_nil_or_concat after with rfl | ⟨after, e', rfl⟩
    · left
      exact List.singleton_inj.mp (List.append_inj' hlog rfl).2
    · right
      rw [List.concat_eq_append] at hlog hlast hkept
      rw [← List.cons_append, ← List.append_assoc] at hlog
      obtain ⟨rfl, he⟩ := List.append_inj' hlog rfl
      obtain rfl := List.singleton_inj.mp he
      refine ⟨⟨before, after, rfl, fun hin => hlast (List.mem_append_left _ hin), ?_⟩, ?_⟩
      · exact fun e he => hkept e (List.mem_append_left _ he)
      · exact hkept e (by simp)
  · intro h
    by_cases he : e = (.acquire u c, .done)
    · subst he
      exact ⟨log, [], rfl, List.not_mem_nil, fun _ hin => absurd hin List.not_mem_nil⟩
    · obtain ⟨⟨before, after, rfl, hlast, hkept⟩, htakes⟩ := h.resolve_left he
      refine ⟨before, after ++ [e], by simp, ?_, ?_⟩
      · rw [List.mem_append, List.mem_singleton, not_or]
        exact ⟨hlast, fun heq => he heq.symm⟩
      · intro e' hin
        rcases List.mem_append.mp hin with hin | hin
        · exact hkept e' hin
        · rw [List.mem_singleton.mp hin]
          exact htakes

theorem perform_cases (s : Scheduler) (call : Call) :
    (∃ e, s.perform call = (.failed e, s)) ∨
    (∃ u c s', call = .acquire u c ∧ s.acquire u c = .ok s' ∧ s.perform call = (.done, s')) ∨
    (∃ u c s', call = .release u c ∧ s.release u c = .ok s' ∧ s.perform call = (.done, s')) ∨
    ∃ c, call = .releaseAll c ∧
      s.perform call = (.released (s.releaseAll c).1, (s.releaseAll c).2) := by
  cases call with
  | acquire u c =>
      cases h : s.acquire u c with
      | error e => exact .inl ⟨e, by rw [perform, h, conclude]⟩
      | ok s' => exact .inr (.inl ⟨u, c, s', rfl, h, by rw [perform, h, conclude]⟩)
  | release u c =>
      cases h : s.release u c with
      | error e => exact .inl ⟨e, by rw [perform, h, conclude]⟩
      | ok s' => exact .inr (.inr (.inl ⟨u, c, s', rfl, h, by rw [perform, h, conclude]⟩))
  | releaseAll c => exact .inr (.inr (.inr ⟨c, rfl, rfl⟩))

theorem perform_of_failed {s : Scheduler} {call : Call} {e : SchedulerError}
    (h : (s.perform call).1 = .failed e) : (s.perform call).2 = s := by
  obtain ⟨e', hp⟩ | ⟨_, _, _, -, -, hp⟩ | ⟨_, _, _, -, -, hp⟩ | ⟨_, -, hp⟩ := s.perform_cases call <;>
    rw [hp] at h ⊢ <;> cases h

theorem devices_perform (s : Scheduler) (call : Call) :
    (s.perform call).2.devices = s.devices := by
  obtain ⟨_, hp⟩ | ⟨_, _, _, -, hop, hp⟩ | ⟨_, _, _, -, hop, hp⟩ | ⟨c, -, hp⟩ :=
    s.perform_cases call <;> rw [hp]
  · exact devices_of_acquire hop
  · exact devices_of_release hop
  · exact s.devices_releaseAll c

theorem enforceOwner_perform (s : Scheduler) (call : Call) :
    (s.perform call).2.enforceOwner = s.enforceOwner := by
  obtain ⟨_, hp⟩ | ⟨_, _, _, -, hop, hp⟩ | ⟨_, _, _, -, hop, hp⟩ | ⟨c, -, hp⟩ :=
    s.perform_cases call <;> rw [hp]
  · obtain ⟨g, -, ⟨-, rfl⟩ | ⟨-, rfl⟩⟩ := exists_of_acquire_eq_ok hop <;> rfl
  · obtain ⟨g, -, ⟨-, rfl⟩ | ⟨-, -, -, rfl⟩⟩ := exists_of_release_eq_ok hop <;> rfl
  · rfl

theorem owner?_perform_eq_some_iff (s : Scheduler) (call : Call) (u : String) (c : ClientId) :
    (s.perform call).2.owner? u = some c ↔
      (call, (s.perform call).1) = (.acquire u c, .done) ∨
        (s.owner? u = some c ∧ ¬ TakesBack u c (call, (s.perform call).1)) := by
  obtain ⟨e, hp⟩ | ⟨v, d, s', rfl, hop, hp⟩ | ⟨v, d, s', rfl, hop, hp⟩ | ⟨d, rfl, hp⟩ :=
    s.perform_cases call <;> rw [hp]
  · cases call <;> simp [TakesBack]
  · simp only [TakesBack, owner?_of_acquire hop]
    by_cases hu : u = v
    · subst hu
      rcases owner?_eq_or_of_acquire hop with hfree | howned
      · simp [hfree]
      · simp [howned]
    · simp [hu, Ne.symm hu]
  · simp only [TakesBack, owner?_of_release hop]
    by_cases hu : u = v
    · simp [hu]
    · simp [hu, Ne.symm hu]
  · simp only [TakesBack, owner?_releaseAll]
    by_cases hd : s.owner? u = some d
    · simp [hd]
    · simp only [if_neg hd, Prod.mk.injEq, reduceCtorEq, false_and, false_or]
      constructor
      · intro h
        exact ⟨h, fun heq => hd (heq ▸ h)⟩
      · exact And.left

/-- Where owners are enforced, only the owner and the end of all its ownerships take a GPU back. -/
theorem eq_release_or_releaseAll_of_owner?_perform_ne {s : Scheduler}
    (henforce : s.enforceOwner = true) {call : Call} {u : String} {c : ClientId}
    (howner : s.owner? u = some c) (hends : (s.perform call).2.owner? u ≠ some c) :
    call = .release u c ∨ call = .releaseAll c := by
  have htakes : TakesBack u c (call, (s.perform call).1) := by
    rw [Ne, owner?_perform_eq_some_iff, not_or, not_and, not_not] at hends
    exact hends.2 howner
  obtain ⟨e, hp⟩ | ⟨v, d, s', rfl, hop, hp⟩ | ⟨v, d, s', rfl, hop, hp⟩ | ⟨d, rfl, hp⟩ :=
    s.perform_cases call <;> rw [hp] at htakes
  · cases call <;> cases htakes
  · cases htakes
  · obtain rfl : v = u := htakes
    exact .inl (by rw [eq_of_release_of_enforceOwner hop henforce howner])
  · exact .inr (congrArg Call.releaseAll htakes)

/-! Runs. -/

theorem owner?_run_eq_some_iff {s : Scheduler} (hfree : ∀ u, s.owner? u = none)
    (calls : List Call) (u : String) (c : ClientId) :
    (s.run calls).owner? u = some c ↔ Keeps u c (s.history calls) := by
  induction calls using List.reverseRecOn with
  | nil => simp [run, history, hfree u, not_keeps_nil]
  | append_singleton calls call ih =>
      rw [run_concat, history_concat, keeps_concat_iff, owner?_perform_eq_some_iff, ih]

theorem devices_run (s : Scheduler) (calls : List Call) : (s.run calls).devices = s.devices := by
  induction calls using List.reverseRecOn with
  | nil => rfl
  | append_singleton calls call ih => rw [run_concat, devices_perform, ih]

theorem enforceOwner_run (s : Scheduler) (calls : List Call) :
    (s.run calls).enforceOwner = s.enforceOwner := by
  induction calls using List.reverseRecOn with
  | nil => rfl
  | append_singleton calls call ih => rw [run_concat, enforceOwner_perform, ih]

/-! What is said about the GPUs of an inventory. -/

end Scheduler

def Gpu.infoUnder (g : Gpu) (owner : Option ClientId) : GpuInfo :=
  ⟨g.uuid, g.name, g.totalMemory, g.freeMemory, owner⟩

def Gpu.statusUnder (g : Gpu) (owner : Option ClientId) : GpuStatus :=
  ⟨g.uuid, owner.isNone, owner, g.freeMemory, g.totalMemory⟩

namespace Scheduler

/-- The scheduler has these GPUs, each under its uuid, whoever owns them. -/
def Offers (s : Scheduler) (gpus : List Gpu) : Prop :=
  s.devices.entries.Perm (gpus.map fun g => (g.uuid, g))

section Offers

variable {s : Scheduler} {gpus : List Gpu}

theorem offers_ofGpus (hg : Inventory.Valid gpus) (enforce : Bool) :
    (ofGpus gpus enforce).Offers gpus := by
  have hkeys : ((gpus.map fun g => (g.uuid, g)).map (·.1)).Nodup := by
    rw [List.map_map]
    exact hg.nodup
  have hentries := (OrderedMap.perm_entries_ofList hkeys).map fun e => (e.1, e.2.freed)
  have hfreed : (gpus.map fun g => (g.uuid, g)).map (fun e => (e.1, e.2.freed)) =
      gpus.map fun g => (g.uuid, g) := by
    rw [List.map_map]
    refine List.map_congr_left fun g hin => ?_
    simp only [Function.comp_apply, Gpu.freed, ← hg.free g hin]
  rw [hfreed] at hentries
  exact hentries

theorem Offers.get?_eq_some_iff (h : s.Offers gpus) {u : String} {g : Gpu} :
    s.devices.get? u = some g ↔ g ∈ gpus ∧ g.uuid = u := by
  rw [← OrderedMap.mem_toList_iff]
  refine (h.mem_iff).trans ?_
  simp only [List.mem_map, Prod.mk.injEq]
  constructor
  · rintro ⟨g, hin, rfl, rfl⟩
    exact ⟨hin, rfl⟩
  · rintro ⟨hin, rfl⟩
    exact ⟨g, hin, rfl, rfl⟩

theorem Offers.exists_get?_eq (h : s.Offers gpus) {g : Gpu} (hin : g ∈ gpus) :
    ∃ g', s.gpus.get? g.uuid = some g' ∧ g'.freed = g := by
  have hdevice := h.get?_eq_some_iff.mpr ⟨hin, rfl⟩
  rwa [devices, OrderedMap.get?_mapValues, Option.map_eq_some_iff] at hdevice

theorem Offers.mem_map_uuid (h : s.Offers gpus) {u : String} {g : Gpu}
    (hg : s.gpus.get? u = some g) : g.uuid = u ∧ u ∈ gpus.map Gpu.uuid := by
  have hdevice : s.devices.get? u = some g.freed := by
    rw [devices, OrderedMap.get?_mapValues, hg, Option.map_some]
  obtain ⟨hin, hu⟩ := h.get?_eq_some_iff.mp hdevice
  exact ⟨hu, List.mem_map.mpr ⟨g.freed, hin, hu⟩⟩

theorem Offers.list_perm (h : s.Offers gpus) :
    s.list.Perm (gpus.map fun g => g.infoUnder (s.owner? g.uuid)) := by
  have hlist : s.list = s.devices.entries.map fun e => e.2.infoUnder (s.owner? e.1) := by
    simp only [list, OrderedMap.values, devices, OrderedMap.mapValues, List.map_map]
    refine List.map_congr_left fun e hin => ?_
    have hget : s.gpus.get? e.1 = some e.2 := (s.gpus.mem_toList_iff).mp hin
    simp only [Function.comp_apply, owner?_of_get? hget]
    rfl
  rw [hlist]
  refine (h.map _).trans ?_
  rw [List.map_map]
  rfl

theorem Offers.status_eq (h : s.Offers gpus) {g : Gpu} (hin : g ∈ gpus) :
    s.status g.uuid = .ok (g.statusUnder (s.owner? g.uuid)) := by
  obtain ⟨g', hget, rfl⟩ := h.exists_get?_eq hin
  rw [owner?_of_get? hget]
  have havailable : g'.ownership.isFree = g'.ownership.owner?.isNone := by
    cases g'.ownership <;> rfl
  simp only [status, hget, Gpu.status, Gpu.statusUnder, havailable]
  rfl

theorem Offers.get?_eq_none (h : s.Offers gpus) {u : String} (hu : u ∉ gpus.map Gpu.uuid) :
    s.gpus.get? u = none := by
  cases hget : s.gpus.get? u with
  | none => rfl
  | some g => exact absurd (h.mem_map_uuid hget).2 hu

theorem Offers.releaseAll_eq (h : s.Offers gpus) (c : ClientId) :
    (s.releaseAll c).1 = gpus.countP fun g => s.owner? g.uuid = some c := by
  have hcount : (s.releaseAll c).1 = s.list.countP fun i => i.owner = some c := by
    change (s.gpus.values.filter (ownedBy c)).length = _
    rw [← List.countP_eq_length_filter, list, List.countP_map]
    refine List.countP_congr fun g _ => ?_
    rw [ownedBy_eq_true_iff, Function.comp_apply, decide_eq_true_iff]
    rfl
  rw [hcount, h.list_perm.countP_eq, List.countP_map]
  rfl

theorem Offers.acquire_done_iff (h : s.Offers gpus) (u : String) (c : ClientId) :
    (s.perform (.acquire u c)).1 = .done ↔
      u ∈ gpus.map Gpu.uuid ∧ (s.owner? u = none ∨ s.owner? u = some c) := by
  constructor
  · intro hdone
    cases hop : s.acquire u c with
    | error e => simp [perform, hop, conclude] at hdone
    | ok s' =>
        obtain ⟨g, hg, -⟩ := exists_of_acquire_eq_ok hop
        exact ⟨(h.mem_map_uuid hg).2, owner?_eq_or_of_acquire hop⟩
  · rintro ⟨hu, howner⟩
    obtain ⟨g, hin, rfl⟩ := List.mem_map.mp hu
    obtain ⟨g', hget, -⟩ := h.exists_get?_eq hin
    obtain ⟨s', hop⟩ := exists_acquire_eq_ok hget howner
    rw [perform, hop, conclude]

theorem Offers.release_done_iff (h : s.Offers gpus) (u : String) (c : ClientId) :
    (s.perform (.release u c)).1 = .done ↔
      u ∈ gpus.map Gpu.uuid ∧
        (s.enforceOwner = true → ∀ d, s.owner? u = some d → d = c) := by
  constructor
  · intro hdone
    cases hop : s.release u c with
    | error e => simp [perform, hop, conclude] at hdone
    | ok s' =>
        obtain ⟨g, hg, -⟩ := exists_of_release_eq_ok hop
        refine ⟨(h.mem_map_uuid hg).2, fun henforce d howner => ?_⟩
        exact (eq_of_release_of_enforceOwner hop henforce howner).symm
  · rintro ⟨hu, hallowed⟩
    obtain ⟨g, hin, rfl⟩ := List.mem_map.mp hu
    obtain ⟨g', hget, -⟩ := h.exists_get?_eq hin
    obtain ⟨s', hop⟩ := exists_release_eq_ok hget hallowed
    rw [perform, hop, conclude]

end Offers

theorem owner?_ofGpus {gpus : List Gpu} (hg : Inventory.Valid gpus) (enforce : Bool) (u : String) :
    (ofGpus gpus enforce).owner? u = none := by
  have hkeys : ((gpus.map fun g => (g.uuid, g)).map (·.1)).Nodup := by
    rw [List.map_map]
    exact hg.nodup
  rw [owner?, Option.bind_eq_none_iff]
  intro g hget
  obtain ⟨g', hin, heq⟩ := List.mem_map.mp ((OrderedMap.get?_ofList_eq_some_iff hkeys).mp hget)
  obtain rfl := (Prod.mk.inj heq).2
  rw [hg.free g' hin, Ownership.owner?]

/-- What holds of a scheduler of `gpus` after the calls of `log`. -/
structure Exclusive (gpus : List Gpu) (enforce : Bool) (log : List (Call × Reply))
    (s : Scheduler) : Prop where
  owner_iff : ∀ u c, s.owner? u = some c ↔ Keeps u c log
  /-- A GPU of the inventory is granted unless another client owns it. -/
  acquire_done : ∀ u c, (s.perform (.acquire u c)).1 = .done ↔
    u ∈ gpus.map Gpu.uuid ∧ (s.owner? u = none ∨ s.owner? u = some c)
  conflict : ∀ u c d, s.owner? u = some d → c ≠ d →
    (s.perform (.acquire u c)).1 = .failed (.ownershipConflict u d)
  release_done : ∀ u c, (s.perform (.release u c)).1 = .done ↔
    u ∈ gpus.map Gpu.uuid ∧ (enforce = true → ∀ d, s.owner? u = some d → d = c)
  ended_by : enforce = true → ∀ call u c, s.owner? u = some c →
    (s.perform call).2.owner? u ≠ some c → call = .release u c ∨ call = .releaseAll c
  failed_unchanged : ∀ call e, (s.perform call).1 = .failed e → (s.perform call).2 = s
  released_count : ∀ c, (s.perform (.releaseAll c)).1 =
    .released (gpus.countP fun g => s.owner? g.uuid = some c)
  released_others : ∀ c u, s.owner? u ≠ some c →
    (s.perform (.releaseAll c)).2.gpus.get? u = s.gpus.get? u
  list_perm : s.list.Perm (gpus.map fun g => g.infoUnder (s.owner? g.uuid))
  status_eq : ∀ g ∈ gpus, s.status g.uuid = .ok (g.statusUnder (s.owner? g.uuid))
  status_unknown : ∀ u, u ∉ gpus.map Gpu.uuid → s.status u = .error (.unknownGpu u)

/-- After any calls, every GPU is with the client that keeps it, and all that is asked or answered
about the GPUs says so. -/
theorem exclusive_run (gpus : List Gpu) (enforce : Bool) (hg : Inventory.Valid gpus)
    (calls : List Call) :
    Exclusive gpus enforce ((ofGpus gpus enforce).history calls)
      ((ofGpus gpus enforce).run calls) := by
  have hoffers : ((ofGpus gpus enforce).run calls).Offers gpus := by
    rw [Offers, devices_run]
    exact offers_ofGpus hg enforce
  have henforce : ((ofGpus gpus enforce).run calls).enforceOwner = enforce :=
    enforceOwner_run (ofGpus gpus enforce) calls
  constructor
  case owner_iff => exact owner?_run_eq_some_iff (owner?_ofGpus hg enforce) calls
  case acquire_done => exact hoffers.acquire_done_iff
  case conflict =>
    intro u c d howner hne
    rw [perform, acquire_of_owner? howner hne, conclude]
  case release_done =>
    intro u c
    rw [hoffers.release_done_iff u c, henforce]
  case ended_by =>
    intro hon call u c howner hends
    exact eq_release_or_releaseAll_of_owner?_perform_ne (henforce.trans hon) howner hends
  case failed_unchanged => exact fun call e => perform_of_failed
  case released_count =>
    intro c
    rw [perform, hoffers.releaseAll_eq c]
  case released_others => exact fun c u => get?_releaseAll_of_owner?_ne _ c
  case list_perm => exact hoffers.list_perm
  case status_eq => exact fun g => hoffers.status_eq
  case status_unknown =>
    intro u hu
    rw [status, hoffers.get?_eq_none hu]

def pairOfGpus : List Gpu := [Gpu.of "GPU-0" "V100" 16 16, Gpu.of "GPU-1" "V100" 16 16]

theorem valid_pairOfGpus : Inventory.Valid pairOfGpus := ⟨by decide, by decide⟩

def contest : List (Call × Reply) :=
  [(.acquire "GPU-0" "alice", .done),
    (.acquire "GPU-0" "bob", .failed (.ownershipConflict "GPU-0" "alice")),
    (.release "GPU-0" "bob", .failed (.notOwner "GPU-0" "bob")),
    (.releaseAll "alice", .released 1), (.acquire "GPU-0" "bob", .done)]

theorem exclusive_run_pairOfGpus :
    Inventory.Valid pairOfGpus ∧
      (ofGpus pairOfGpus true).history (contest.map (·.1)) = contest ∧
      Exclusive pairOfGpus true contest ((ofGpus pairOfGpus true).run (contest.map (·.1))) := by
  have hlog : (ofGpus pairOfGpus true).history (contest.map (·.1)) = contest := by decide
  refine ⟨valid_pairOfGpus, hlog, ?_⟩
  have hexclusive := exclusive_run pairOfGpus true valid_pairOfGpus (contest.map (·.1))
  rwa [hlog] at hexclusive

end Scheduler

end NumaFabric
