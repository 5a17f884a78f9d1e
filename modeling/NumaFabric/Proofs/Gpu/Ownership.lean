import NumaFabric.Gpu.Scheduler
import NumaFabric.Proofs.Store.Floor

namespace NumaFabric

def Gpu.freed (g : Gpu) : Gpu := { g with ownership := .free }

namespace Scheduler

/-- The GPUs without their owners: what no operation changes. -/
def devices (s : Scheduler) : OrderedMap String Gpu := s.gpus.mapValues fun _ g => g.freed

theorem owner?_eq_some_iff {s : Scheduler} {u : String} {c : ClientId} :
    s.owner? u = some c ↔ ∃ g, s.gpus.get? u = some g ∧ g.ownership = .owned c := by
  rw [owner?, Option.bind_eq_some_iff]
  constructor
  · rintro ⟨g, hg, hc⟩
    refine ⟨g, hg, ?_⟩
    cases ho : g.ownership with
    | free => simp [ho, Ownership.owner?] at hc
    | owned d => simpa [ho, Ownership.owner?] using hc
  · rintro ⟨g, hg, hc⟩
    exact ⟨g, hg, by rw [hc, Ownership.owner?]⟩

theorem owner?_of_get? {s : Scheduler} {u : String} {g : Gpu} (h : s.gpus.get? u = some g) :
    s.owner? u = g.ownership.owner? := by
  rw [owner?, h, Option.bind_some]

/-! Setting the ownership of one GPU. -/

section SetOwnership

variable (s : Scheduler) {uuid : String} {g : Gpu} (o : Ownership)

theorem owner?_setOwnership (u : String) :
    (s.setOwnership uuid g o).owner? u = if u = uuid then o.owner? else s.owner? u := by
  by_cases hu : u = uuid
  · subst hu
    rw [if_pos rfl]
    rw [owner?, setOwnership, OrderedMap.get?_insert_self, Option.bind_some]
  · rw [if_neg hu, owner?, owner?, setOwnership, s.gpus.get?_insert_of_ne _ (Ne.symm hu)]

theorem devices_setOwnership (h : s.gpus.get? uuid = some g) :
    (s.setOwnership uuid g o).devices = s.devices :=
  s.gpus.mapValues_insert_of_get? h _ rfl

end SetOwnership

section Acquire

variable {s s' : Scheduler} {uuid : String} {client : ClientId}

theorem exists_of_acquire_eq_ok (h : s.acquire uuid client = .ok s') :
    ∃ g, s.gpus.get? uuid = some g ∧
      (g.ownership = .free ∧ s' = s.setOwnership uuid g (.owned client) ∨
        g.ownership = .owned client ∧ s' = s) := by
  unfold acquire at h
  split at h
  · cases h
  · rename_i g hg
    refine ⟨g, hg, ?_⟩
    split at h
    · rename_i ho
      cases h
      exact .inl ⟨ho, rfl⟩
    · rename_i owner ho
      split at h
      · rename_i hc
        subst hc
        cases h
        exact .inr ⟨ho, rfl⟩
      · cases h

theorem owner?_of_acquire (h : s.acquire uuid client = .ok s') (u : String) :
    s'.owner? u = if u = uuid then some client else s.owner? u := by
  obtain ⟨g, hg, ⟨-, rfl⟩ | ⟨ho, rfl⟩⟩ := exists_of_acquire_eq_ok h
  · exact owner?_setOwnership s (.owned client) u
  · by_cases hu : u = uuid
    · subst hu
      rw [if_pos rfl]
      exact owner?_eq_some_iff.mpr ⟨g, hg, ho⟩
    · rw [if_neg hu]

theorem devices_of_acquire (h : s.acquire uuid client = .ok s') : s'.devices = s.devices := by
  obtain ⟨g, hg, ⟨-, rfl⟩ | ⟨-, rfl⟩⟩ := exists_of_acquire_eq_ok h
  · exact devices_setOwnership s _ hg
  · rfl

theorem acquire_of_owner? {owner : ClientId} (h : s.owner? uuid = some owner)
    (hne : client ≠ owner) : s.acquire uuid client = .error (.ownershipConflict uuid owner) := by
  obtain ⟨g, hg, ho⟩ := owner?_eq_some_iff.mp h
  simp only [acquire, hg, ho, if_neg (Ne.symm hne)]

theorem exists_acquire_eq_ok {g : Gpu} (hg : s.gpus.get? uuid = some g)
    (h : s.owner? uuid = none ∨ s.owner? uuid = some client) :
    ∃ s', s.acquire uuid client = .ok s' := by
  rw [owner?_of_get? hg] at h
  cases ho : g.ownership with
  | free => exact ⟨s.setOwnership uuid g (.owned client), by simp only [acquire, hg, ho]⟩
  | owned owner =>
      simp only [ho, Ownership.owner?, reduceCtorEq, Option.some.injEq, false_or] at h
      exact ⟨s, by simp only [acquire, hg, ho, if_pos h]⟩

theorem owner?_eq_or_of_acquire (h : s.acquire uuid client = .ok s') :
    s.owner? uuid = none ∨ s.owner? uuid = some client := by
  obtain ⟨g, hg, ⟨ho, -⟩ | ⟨ho, -⟩⟩ := exists_of_acquire_eq_ok h
  · left
    rw [owner?_of_get? hg, ho, Ownership.owner?]
  · right
    exact owner?_eq_some_iff.mpr ⟨g, hg, ho⟩

end Acquire

section Release

variable {s s' : Scheduler} {uuid : String} {client : ClientId}

theorem exists_of_release_eq_ok (h : s.release uuid client = .ok s') :
    ∃ g, s.gpus.get? uuid = some g ∧
      (g.ownership = .free ∧ s' = s ∨
        ∃ owner, g.ownership = .owned owner ∧ (s.enforceOwner = true → owner = client) ∧
          s' = s.setOwnership uuid g .free) := by
  unfold release at h
  split at h
  · cases h
  · rename_i g hg
    refine ⟨g, hg, ?_⟩
    split at h
    · rename_i ho
      cases h
      exact .inl ⟨ho, rfl⟩
    · rename_i owner ho
      split at h
      · cases h
      · rename_i hc
        cases h
        refine .inr ⟨owner, ho, fun henforce => ?_, rfl⟩
        exact Decidable.byContradiction fun hne => hc ⟨henforce, hne⟩

theorem owner?_of_release (h : s.release uuid client = .ok s') (u : String) :
    s'.owner? u = if u = uuid then none else s.owner? u := by
  obtain ⟨g, hg, ⟨ho, rfl⟩ | ⟨-, -, -, rfl⟩⟩ := exists_of_release_eq_ok h
  · by_cases hu : u = uuid
    · subst hu
      rw [if_pos rfl, owner?_of_get? hg, ho, Ownership.owner?]
    · rw [if_neg hu]
  · exact owner?_setOwnership s .free u

theorem devices_of_release (h : s.release uuid client = .ok s') : s'.devices = s.devices := by
  obtain ⟨g, hg, ⟨-, rfl⟩ | ⟨-, -, -, rfl⟩⟩ := exists_of_release_eq_ok h
  · rfl
  · exact devices_setOwnership s _ hg

theorem exists_release_eq_ok {g : Gpu} (hg : s.gpus.get? uuid = some g)
    (h : s.enforceOwner = true → ∀ owner, s.owner? uuid = some owner → owner = client) :
    ∃ s', s.release uuid client = .ok s' := by
  rw [owner?_of_get? hg] at h
  cases ho : g.ownership with
  | free => exact ⟨s, by simp only [release, hg, ho]⟩
  | owned owner =>
      have hallowed : ¬ (s.enforceOwner = true ∧ owner ≠ client) := by
        rintro ⟨henforce, hne⟩
        exact hne (h henforce owner (by rw [ho, Ownership.owner?]))
      exact ⟨s.setOwnership uuid g .free, by simp only [release, hg, ho, if_neg hallowed]⟩

/-- Where owners are enforced, a release that ends an ownership is one by the owner. -/
theorem eq_of_release_of_enforceOwner (h : s.release uuid client = .ok s')
    (henforce : s.enforceOwner = true) {owner : ClientId} (howner : s.owner? uuid = some owner) :
    client = owner := by
  obtain ⟨g, hg, ho⟩ := owner?_eq_some_iff.mp howner
  obtain ⟨g', hg', ⟨hfree, -⟩ | ⟨owner', ho', hsame, -⟩⟩ := exists_of_release_eq_ok h <;>
    obtain rfl := Option.some.inj (hg.symm.trans hg')
  · rw [hfree] at ho
    cases ho
  · rw [ho'] at ho
    cases ho
    exact (hsame henforce).symm

end Release

section ReleaseAll

variable (s : Scheduler) (client : ClientId)

theorem get?_releaseAll (u : String) :
    (s.releaseAll client).2.gpus.get? u =
      (s.gpus.get? u).map fun g => if ownedBy client g then g.freed else g :=
  s.gpus.get?_mapValues _ u

theorem ownedBy_eq_true_iff {client : ClientId} {g : Gpu} :
    ownedBy client g = true ↔ g.ownership.owner? = some client := by
  rw [ownedBy, beq_iff_eq]

theorem get?_releaseAll_of_owner?_ne {u : String} (h : s.owner? u ≠ some client) :
    (s.releaseAll client).2.gpus.get? u = s.gpus.get? u := by
  rw [get?_releaseAll]
  cases hg : s.gpus.get? u with
  | none => rfl
  | some g =>
      rw [owner?_of_get? hg] at h
      rw [Option.map_some, if_neg (mt ownedBy_eq_true_iff.mp h)]

theorem owner?_releaseAll (u : String) :
    (s.releaseAll client).2.owner? u =
      if s.owner? u = some client then none else s.owner? u := by
  by_cases h : s.owner? u = some client
  · obtain ⟨g, hg, ho⟩ := owner?_eq_some_iff.mp h
    have howned : ownedBy client g = true := by
      rw [ownedBy_eq_true_iff, ← owner?_of_get? hg, h]
    rw [if_pos h, owner?, get?_releaseAll, hg, Option.map_some, if_pos howned]
    rfl
  · rw [if_neg h, owner?, get?_releaseAll_of_owner?_ne s client h, owner?]

theorem devices_releaseAll : (s.releaseAll client).2.devices = s.devices := by
  simp only [devices, releaseAll, OrderedMap.mapValues, OrderedMap.mk.injEq, List.map_map]
  refine List.map_congr_left fun e _ => ?_
  simp only [Function.comp_apply]
  split
  · rfl
  · rfl

end ReleaseAll

end Scheduler

end NumaFabric
