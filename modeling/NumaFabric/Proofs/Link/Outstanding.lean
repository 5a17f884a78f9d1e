import Mathlib.Data.Set.Card
import NumaFabric.Link.Registration
import NumaFabric.Proofs.Runs.Transcript
import NumaFabric.Proofs.Store.Listed

namespace NumaFabric

/-- Two handles that a table cannot tell apart: of one number, and for one base. -/
def RegistrationHandle.Matches (h h' : RegistrationHandle) : Prop :=
  h.id = h'.id ∧ h.region.base = h'.region.base

namespace RegistrationTable

inductive Call where
  | register (region : Region)
  | unregister (handle : RegistrationHandle)
  | clear
deriving DecidableEq

inductive Reply where
  | registered (handle : RegistrationHandle)
  | unregistered
  | cleared (count : Nat)
  | failed (cause : TransferError)
deriving DecidableEq

def perform : Machine RegistrationTable Call Reply
  | t, .register region =>
    match t.register region with
    | .ok (handle, t') => (.registered handle, t')
    | .error e => (.failed e, t)
  | t, .unregister handle =>
    match t.unregister handle with
    | .ok t' => (.unregistered, t')
    | .error e => (.failed e, t)
  | t, .clear => (.cleared t.clear.1, t.clear.2)

def next (t : RegistrationTable) (region : Region) : RegistrationHandle := ⟨t.lastId + 1, region⟩

section Perform

variable {t : RegistrationTable}

theorem perform_register_of_free {region : Region} (h : t.live.get? region.base = none) :
    perform t (.register region) = (.registered (t.next region),
      ⟨t.live.insert region.base (t.next region), t.lastId + 1⟩) := by
  simp only [perform, register, OrderedMap.contains, h]
  rfl

theorem perform_register_of_taken {region : Region} {live : RegistrationHandle}
    (h : t.live.get? region.base = some live) :
    perform t (.register region) = (.failed (.alreadyRegistered region.base), t) := by
  simp only [perform, register, OrderedMap.contains, h]
  rfl

theorem perform_unregister_of_live {given live : RegistrationHandle}
    (h : t.live.get? given.region.base = some live) (hid : given.id = live.id) :
    perform t (.unregister given) =
      (.unregistered, { t with live := t.live.erase given.region.base }) := by
  simp only [perform, unregister, h, if_pos hid.symm]

theorem perform_unregister_of_unknown {given : RegistrationHandle}
    (h : ∀ live, t.live.get? given.region.base = some live → given.id ≠ live.id) :
    perform t (.unregister given) = (.failed (.notRegistered given.region.base), t) := by
  cases hget : t.live.get? given.region.base with
  | none => simp only [perform, unregister, hget]
  | some live => simp only [perform, unregister, hget, if_neg (h live hget).symm]

end Perform

inductive Step (t : RegistrationTable) : Call → Reply → RegistrationTable → Prop
  | registered {region : Region} (hfree : t.live.get? region.base = none) :
      Step t (.register region) (.registered (t.next region))
        ⟨t.live.insert region.base (t.next region), t.lastId + 1⟩
  | taken {region : Region} {live : RegistrationHandle}
      (htaken : t.live.get? region.base = some live) :
      Step t (.register region) (.failed (.alreadyRegistered region.base)) t
  | unregistered {given live : RegistrationHandle}
      (hlive : t.live.get? given.region.base = some live) (hid : given.id = live.id) :
      Step t (.unregister given) .unregistered
        { t with live := t.live.erase given.region.base }
  | unknown {given : RegistrationHandle}
      (hnone : ∀ live, t.live.get? given.region.base = some live → given.id ≠ live.id) :
      Step t (.unregister given) (.failed (.notRegistered given.region.base)) t
  | cleared : Step t .clear (.cleared t.size) { t with live := .empty }

theorem step_perform (t : RegistrationTable) (call : Call) :
    Step t call (perform t call).1 (perform t call).2 := by
  cases call with
  | register region =>
      cases hget : t.live.get? region.base with
      | none =>
          rw [perform_register_of_free hget]
          exact .registered hget
      | some live =>
          rw [perform_register_of_taken hget]
          exact .taken hget
  | unregister given =>
      by_cases hlive : ∃ live, t.live.get? given.region.base = some live ∧ given.id = live.id
      · obtain ⟨live, hget, hid⟩ := hlive
        rw [perform_unregister_of_live hget hid]
        exact .unregistered hget hid
      · have hnone (live : RegistrationHandle) (hget : t.live.get? given.region.base = some live) :
            given.id ≠ live.id :=
          fun hid => hlive ⟨live, hget, hid⟩
        rw [perform_unregister_of_unknown hnone]
        exact .unknown hnone
  | clear => exact .cleared

/-! What a run hands out, and what ends it. -/

def issued? : Call × Reply → Option RegistrationHandle
  | (_, .registered h) => some h
  | _ => none

def issued (log : List (Call × Reply)) : List RegistrationHandle := log.filterMap issued?

/-- What ends the registration of `h`: that all are cleared, or a handle that matches it. -/
def Ends (h : RegistrationHandle) : Call × Reply → Prop
  | (.unregister given, .unregistered) => given.Matches h
  | (.clear, .cleared _) => True
  | _ => False

def Registered (h : RegistrationHandle) (log : List (Call × Reply)) : Prop :=
  Stands (· = (.register h.region, .registered h)) (Ends h) log

/-- The live registrations are those that the record of the calls has as registered. -/
def Tracks (log : List (Call × Reply)) (t : RegistrationTable) : Prop :=
  ∀ base h, t.live.get? base = some h ↔ h.region.base = base ∧ Registered h log

theorem tracks_empty : Tracks [] .empty := by
  intro base h
  constructor
  · intro hget
    cases hget
  · rintro ⟨-, hstands⟩
    exact absurd hstands not_stands_nil

section Step

variable {t t' : RegistrationTable} {call : Call} {reply : Reply} {log : List (Call × Reply)}

theorem registered_concat_failed (h : RegistrationHandle) (call : Call) (e : TransferError)
    (log : List (Call × Reply)) :
    Registered h (log ++ [(call, .failed e)]) ↔ Registered h log := by
  rw [Registered, stands_concat_iff]
  cases call <;> simp [Ends, Registered]

theorem Tracks.step (htracks : Tracks log t) (hstep : Step t call reply t') :
    Tracks (log ++ [(call, reply)]) t' := by
  intro base h
  cases hstep with
  | @registered region hfree =>
      rw [Registered, stands_concat_iff]
      constructor
      · intro hget
        rcases t.live.get?_insert_eq_some hget with ⟨rfl, rfl⟩ | ⟨-, hold⟩
        · exact ⟨rfl, .inl rfl⟩
        · obtain ⟨hbase, hstands⟩ := (htracks base h).mp hold
          exact ⟨hbase, .inr ⟨hstands, id⟩⟩
      · rintro ⟨rfl, hbegins | ⟨hstands, -⟩⟩
        · simp only [Prod.mk.injEq, Call.register.injEq, Reply.registered.injEq] at hbegins
          obtain ⟨hregion, rfl⟩ := hbegins
          exact t.live.get?_insert_self _ _
        · have hold := (htracks h.region.base h).mpr ⟨rfl, hstands⟩
          have hne : region.base ≠ h.region.base := by
            intro heq
            rw [heq, hold] at hfree
            cases hfree
          exact (t.live.get?_insert_of_ne _ hne).trans hold
  | taken _ => rw [registered_concat_failed, htracks]
  | @unregistered given live hlive hid =>
      rw [Registered, stands_concat_iff]
      constructor
      · intro hget
        obtain ⟨hne, hold⟩ := t.live.get?_erase_eq_some hget
        obtain ⟨hbase, hstands⟩ := (htracks base h).mp hold
        refine ⟨hbase, .inr ⟨hstands, ?_⟩⟩
        rintro ⟨-, hsame⟩
        exact hne (hbase.symm.trans hsame.symm)
      · rintro ⟨rfl, hbegins | ⟨hstands, hends⟩⟩
        · cases hbegins
        · have hold := (htracks h.region.base h).mpr ⟨rfl, hstands⟩
          have hne : given.region.base ≠ h.region.base := by
            intro heq
            rw [heq, hold] at hlive
            obtain rfl := Option.some.inj hlive
            exact hends ⟨hid, heq⟩
          exact (t.live.get?_erase_of_ne hne).trans hold
  | unknown _ => rw [registered_concat_failed, htracks]
  | cleared =>
      rw [Registered, stands_concat_iff]
      constructor
      · intro hget
        cases hget
      · rintro ⟨-, hbegins | ⟨-, hends⟩⟩
        · cases hbegins
        · exact absurd trivial hends

theorem mem_issued_of_stands {h : RegistrationHandle} {ends : Call × Reply → Prop}
    (hstands : Stands (· = (.register h.region, .registered h)) ends log) : h ∈ issued log := by
  obtain ⟨before, e, after, rfl, rfl, -⟩ := hstands
  exact List.mem_filterMap.mpr ⟨_, List.mem_append_right _ List.mem_cons_self, rfl⟩

theorem issued_append_of_none (h : issued? (call, reply) = none) :
    issued (log ++ [(call, reply)]) = issued log := by
  rw [issued, List.filterMap_append, List.filterMap_cons_none h, List.filterMap_nil,
    List.append_nil]
  rfl

theorem Step.issued_cases (hstep : Step t call reply t') (log : List (Call × Reply)) :
    (∃ region, issued (log ++ [(call, reply)]) = issued log ++ [t.next region] ∧
      t'.lastId = t.lastId + 1) ∨
    (issued (log ++ [(call, reply)]) = issued log ∧ t'.lastId = t.lastId) := by
  cases hstep with
  | @registered region _ => exact .inl ⟨region, List.filterMap_append, rfl⟩
  | taken _ => exact .inr ⟨issued_append_of_none rfl, rfl⟩
  | unregistered _ _ => exact .inr ⟨issued_append_of_none rfl, rfl⟩
  | unknown _ => exact .inr ⟨issued_append_of_none rfl, rfl⟩
  | cleared => exact .inr ⟨issued_append_of_none rfl, rfl⟩

structure Numbered (log : List (Call × Reply)) (t : RegistrationTable) : Prop where
  last : t.lastId.toNat = (issued log).length
  ids : (issued log).map (·.id.toNat) = List.range' 1 (issued log).length

theorem Numbered.step (h : Numbered log t) (hstep : Step t call reply t')
    (hfew : (issued (log ++ [(call, reply)])).length < UInt64.size) :
    Numbered (log ++ [(call, reply)]) t' := by
  obtain ⟨region, hissued, hlast⟩ | ⟨hissued, hlast⟩ := hstep.issued_cases log
  · rw [hissued, List.length_append, List.length_singleton] at hfew
    have hid : (t.lastId + 1).toNat = (issued log).length + 1 := by
      rw [UInt64.toNat_add, h.last]
      exact Nat.mod_eq_of_lt hfew
    constructor
    · rw [hlast, hissued, List.length_append]
      exact hid
    · rw [hissued, List.map_append, List.length_append, List.length_singleton,
        List.range'_1_concat, h.ids, List.map_singleton, next, hid, Nat.add_comm]
  · constructor
    · rw [hlast, hissued]
      exact h.last
    · rw [hissued]
      exact h.ids

theorem Numbered.increasing (h : Numbered log t) :
    (issued log).Pairwise fun a b => a.id < b.id := by
  have hids : ((issued log).map (·.id.toNat)).Pairwise (· < ·) := by
    rw [h.ids]
    exact List.pairwise_lt_range'
  exact (List.pairwise_map.mp hids).imp UInt64.lt_iff_toNat_lt.mpr

theorem Numbered.eq_of_id_eq (h : Numbered log t) {a b : RegistrationHandle} (ha : a ∈ issued log)
    (hb : b ∈ issued log) (hid : a.id = b.id) : a = b := by
  have hnodup : ((issued log).map (·.id.toNat)).Nodup := by
    rw [h.ids]
    exact List.nodup_range'
  exact List.inj_on_of_nodup_map hnodup ha hb (congrArg UInt64.toNat hid)

end Step

/-! What a table answers, in terms of what is registered. -/

section Tracks

variable {t : RegistrationTable} {log : List (Call × Reply)}

theorem perform_of_failed {call : Call} {e : TransferError}
    (h : (perform t call).1 = .failed e) : (perform t call).2 = t := by
  have hstep := step_perform t call
  generalize perform t call = result at h hstep ⊢
  obtain ⟨reply, t'⟩ := result
  cases hstep with
  | taken _ => rfl
  | unknown _ => rfl
  | registered _ => cases h
  | unregistered _ _ => cases h
  | cleared => cases h

theorem Tracks.mem_values_iff (htracks : Tracks log t) {h : RegistrationHandle} :
    h ∈ t.live.values ↔ Registered h log := by
  rw [OrderedMap.mem_values_iff]
  constructor
  · rintro ⟨base, hget⟩
    exact ((htracks base h).mp hget).2
  · intro hstands
    exact ⟨h.region.base, (htracks _ h).mpr ⟨rfl, hstands⟩⟩

theorem Tracks.keyed (htracks : Tracks log t) (base : Address) (live : RegistrationHandle)
    (hget : t.live.get? base = some live) : live.region.base = base :=
  ((htracks base live).mp hget).1

theorem Tracks.size_eq (htracks : Tracks log t) : t.size = {h | Registered h log}.ncard := by
  have hset : {h | Registered h log} = (t.live.values.toFinset : Set RegistrationHandle) := by
    ext h
    rw [Set.mem_ofPred_eq, ← htracks.mem_values_iff, List.coe_toFinset, Set.mem_ofPred_eq]
  rw [hset, Set.ncard_coe_finset,
    List.toFinset_card_of_nodup (OrderedMap.nodup_values htracks.keyed), OrderedMap.values,
    List.length_map]
  rfl

theorem Tracks.register_of_free (htracks : Tracks log t) {region : Region}
    (hfree : ∀ h, Registered h log → h.region.base ≠ region.base) :
    ∃ t', perform t (.register region) = (.registered (t.next region), t') ∧
      ∀ h, h ∈ t'.live.values ↔ h = t.next region ∨ h ∈ t.live.values := by
  have hnone : t.live.get? region.base = none := by
    refine Option.eq_none_iff_forall_ne_some.mpr fun h hget => ?_
    obtain ⟨hbase, hstands⟩ := (htracks region.base h).mp hget
    exact hfree h hstands hbase
  exact ⟨_, perform_register_of_free hnone, fun h => OrderedMap.mem_values_insert_iff hnone⟩

theorem Tracks.register_of_taken (htracks : Tracks log t) {region : Region}
    {h : RegistrationHandle} (hstands : Registered h log) (hbase : h.region.base = region.base) :
    perform t (.register region) = (.failed (.alreadyRegistered region.base), t) :=
  perform_register_of_taken ((htracks region.base h).mpr ⟨hbase, hstands⟩)

theorem Tracks.unregister_of_matches (htracks : Tracks log t) {given live : RegistrationHandle}
    (hstands : Registered live log) (hmatches : given.Matches live) :
    (perform t (.unregister given)).1 = .unregistered ∧
      ∀ h, h ∈ (perform t (.unregister given)).2.live.values ↔
        h ∈ t.live.values ∧ h ≠ live := by
  have hget := (htracks given.region.base live).mpr ⟨hmatches.2.symm, hstands⟩
  rw [perform_unregister_of_live hget hmatches.1]
  exact ⟨rfl, fun h => OrderedMap.mem_values_erase_iff htracks.keyed hget⟩

theorem Tracks.unregister_of_unmatched (htracks : Tracks log t) {given : RegistrationHandle}
    (hnone : ∀ live, Registered live log → ¬ given.Matches live) :
    perform t (.unregister given) = (.failed (.notRegistered given.region.base), t) := by
  refine perform_unregister_of_unknown fun live hget hid => ?_
  obtain ⟨hbase, hstands⟩ := (htracks _ live).mp hget
  exact hnone live hstands ⟨hid, hbase.symm⟩

end Tracks

/-! Whole runs. -/

theorem tracks_after (calls : List Call) :
    Tracks (perform.log .empty calls) (perform.after .empty calls) :=
  perform.invariant tracks_empty (fun _ t call h => h.step (step_perform t call)) calls

theorem numbered_after {calls : List Call}
    (hfew : (issued (perform.log .empty calls)).length < UInt64.size) :
    Numbered (perform.log .empty calls) (perform.after .empty calls) := by
  refine perform.invariant
    (P := fun log t => (issued log).length < UInt64.size → Numbered log t)
    (fun _ => ⟨rfl, rfl⟩) ?_ calls hfew
  intro log t call h hfew
  have hle : (issued log).length ≤ (issued (log ++ [(call, (perform t call).1)])).length := by
    rw [issued, issued, List.filterMap_append, List.length_append]
    exact Nat.le_add_right _ _
  exact (h (Nat.lt_of_le_of_lt hle hfew)).step (step_perform t call) hfew

/-- What ends the registration of `h` by right: that all are cleared, or that `h` is given back. -/
def Releases (h : RegistrationHandle) (e : Call × Reply) : Prop :=
  e = (.unregister h, .unregistered) ∨ ∃ count, e = (.clear, .cleared count)

/-- The handle was handed out, and neither given back nor cleared since. -/
def Outstanding (h : RegistrationHandle) (log : List (Call × Reply)) : Prop :=
  Stands (· = (.register h.region, .registered h)) (Releases h) log

def Uncleared (h : RegistrationHandle) (log : List (Call × Reply)) : Prop :=
  Stands (· = (.register h.region, .registered h)) (∃ count, · = (.clear, .cleared count)) log

/-- Only handles that this table handed out are given back to it. -/
def Genuine (log : List (Call × Reply)) : Prop :=
  ∀ given reply, (.unregister given, reply) ∈ log → given ∈ issued log

section Genuine

variable {log : List (Call × Reply)} {t : RegistrationTable} {h : RegistrationHandle}

theorem Numbered.registered_iff (hnumbered : Numbered log t) (hgenuine : Genuine log) :
    Registered h log ↔ Outstanding h log := by
  constructor
  · intro hstands
    refine hstands.imp ?_
    rintro e - (rfl | ⟨count, rfl⟩)
    · exact ⟨rfl, rfl⟩
    · exact trivial
  · intro hstands
    refine hstands.imp ?_
    rintro ⟨call, reply⟩ hin hends
    match call, reply with
    | .unregister given, .unregistered =>
      have hgiven := hgenuine given .unregistered hin
      obtain rfl := hnumbered.eq_of_id_eq hgiven (mem_issued_of_stands hstands) hends.1
      exact .inl rfl
    | .clear, .cleared count => exact .inr ⟨count, rfl⟩

theorem uncleared_iff (hheld : ∀ reply, (.unregister h, reply) ∉ log) :
    Uncleared h log ↔ Outstanding h log := by
  constructor
  · intro hstands
    refine hstands.imp ?_
    rintro e hin (rfl | hclear)
    · exact absurd hin (hheld _)
    · exact hclear
  · intro hstands
    exact hstands.imp fun e _ hclear => .inr hclear

end Genuine

/-- What a table answers after the calls of `log`, whatever comes next. -/
structure Exact (log : List (Call × Reply)) (t : RegistrationTable) : Prop where
  live : ∀ h, h ∈ t.live.values ↔ Outstanding h log
  numbers : (issued log).Pairwise fun a b => a.id < b.id
  registers : ∀ region, (∀ h, Outstanding h log → h.region.base ≠ region.base) →
    ∃ h t', perform t (.register region) = (.registered h, t') ∧ h.region = region ∧
      ∀ h', h' ∈ t'.live.values ↔ h' = h ∨ h' ∈ t.live.values
  refuses : ∀ region h, Outstanding h log → h.region.base = region.base →
    perform t (.register region) = (.failed (.alreadyRegistered region.base), t)
  /-- A handle that was not given back yet ends its registration, unless it was cleared. -/
  ends_iff : ∀ h, h ∈ issued log → (∀ reply, (.unregister h, reply) ∉ log) →
    ((perform t (.unregister h)).1 = .unregistered ↔ Uncleared h log)
  ends_own : ∀ h, h ∈ issued log → (perform t (.unregister h)).1 = .unregistered →
    Outstanding h log ∧
      ∀ h', h' ∈ (perform t (.unregister h)).2.live.values ↔ h' ∈ t.live.values ∧ h' ≠ h
  /-- A handle out of date ends nothing, not even a newer registration of the same base. -/
  stale : ∀ h, h ∈ issued log → ¬ Outstanding h log →
    perform t (.unregister h) = (.failed (.notRegistered h.region.base), t)
  failed : ∀ call e, (perform t call).1 = .failed e → (perform t call).2 = t
  clears : (perform t .clear).1 = .cleared {h | Outstanding h log}.ncard ∧
    ∀ h, h ∉ (perform t .clear).2.live.values

theorem Numbered.unregister_cases {log : List (Call × Reply)} {t : RegistrationTable}
    (hnumbered : Numbered log t) (htracks : Tracks log t) {h : RegistrationHandle}
    (hissued : h ∈ issued log) :
    (Registered h log ∧ (perform t (.unregister h)).1 = .unregistered ∧
      ∀ h', h' ∈ (perform t (.unregister h)).2.live.values ↔ h' ∈ t.live.values ∧ h' ≠ h) ∨
    (¬ Registered h log ∧
      perform t (.unregister h) = (.failed (.notRegistered h.region.base), t)) := by
  by_cases hstands : Registered h log
  · exact .inl ⟨hstands, htracks.unregister_of_matches hstands ⟨rfl, rfl⟩⟩
  · refine .inr ⟨hstands, htracks.unregister_of_unmatched fun live hlive hmatches => ?_⟩
    obtain rfl := hnumbered.eq_of_id_eq hissued (mem_issued_of_stands hlive) hmatches.1
    exact hstands hlive

/-- Whatever is registered, given back and cleared, if only handles of this table are given back to it
and 64 bits count them. -/
theorem exact_after (calls : List Call) (hgenuine : Genuine (perform.log .empty calls))
    (hfew : (issued (perform.log .empty calls)).length < UInt64.size) :
    Exact (perform.log .empty calls) (perform.after .empty calls) := by
  have htracks := tracks_after calls
  have hnumbered := numbered_after hfew
  have houtstanding (h : RegistrationHandle) :
      Registered h (perform.log .empty calls) ↔ Outstanding h (perform.log .empty calls) :=
    hnumbered.registered_iff hgenuine
  constructor
  case live =>
    intro h
    rw [htracks.mem_values_iff, houtstanding]
  case numbers => exact hnumbered.increasing
  case registers =>
    intro region hfree
    obtain ⟨t', hperform, hvalues⟩ :=
      htracks.register_of_free fun h hstands => hfree h ((houtstanding h).mp hstands)
    exact ⟨_, t', hperform, rfl, hvalues⟩
  case refuses =>
    intro region h hstands hbase
    exact htracks.register_of_taken ((houtstanding h).mpr hstands) hbase
  case ends_iff =>
    intro h hissued hheld
    rw [uncleared_iff hheld, ← houtstanding]
    obtain ⟨hstands, hends, -⟩ | ⟨hstands, hfails⟩ := hnumbered.unregister_cases htracks hissued
    · exact iff_of_true hends hstands
    · rw [hfails]
      exact iff_of_false nofun hstands
  case ends_own =>
    intro h hissued hends
    obtain ⟨hstands, -, hvalues⟩ | ⟨-, hfails⟩ := hnumbered.unregister_cases htracks hissued
    · exact ⟨(houtstanding h).mp hstands, hvalues⟩
    · rw [hfails] at hends
      cases hends
  case stale =>
    intro h hissued hended
    obtain ⟨hstands, -⟩ | ⟨-, hfails⟩ := hnumbered.unregister_cases htracks hissued
    · exact absurd ((houtstanding h).mp hstands) hended
    · exact hfails
  case failed => exact fun call e h => perform_of_failed h
  case clears =>
    refine ⟨?_, fun h hin => ?_⟩
    · simp only [← houtstanding, ← htracks.size_eq]
      rfl
    · cases hin

def reusedBase : List Call :=
  [.register ⟨16, 4⟩, .clear, .register ⟨16, 4⟩, .unregister ⟨1, ⟨16, 4⟩⟩, .register ⟨16, 8⟩,
    .register ⟨32, 0⟩, .unregister ⟨3, ⟨32, 0⟩⟩]

theorem genuine_reusedBase : Genuine (perform.log .empty reusedBase) := by
  have hissued : issued (perform.log .empty reusedBase) =
      [⟨1, ⟨16, 4⟩⟩, ⟨2, ⟨16, 4⟩⟩, ⟨3, ⟨32, 0⟩⟩] := by decide
  have hlog : perform.log .empty reusedBase =
      [(.register ⟨16, 4⟩, .registered ⟨1, ⟨16, 4⟩⟩), (.clear, .cleared 1),
        (.register ⟨16, 4⟩, .registered ⟨2, ⟨16, 4⟩⟩),
        (.unregister ⟨1, ⟨16, 4⟩⟩, .failed (.notRegistered 16)),
        (.register ⟨16, 8⟩, .failed (.alreadyRegistered 16)),
        (.register ⟨32, 0⟩, .registered ⟨3, ⟨32, 0⟩⟩),
        (.unregister ⟨3, ⟨32, 0⟩⟩, .unregistered)] := by decide
  intro given reply hin
  rw [hissued]
  rw [hlog] at hin
  simp only [List.mem_cons, Prod.mk.injEq, reduceCtorEq, false_and, false_or,
    Call.unregister.injEq, List.not_mem_nil, or_false] at hin
  rcases hin with ⟨rfl, -⟩ | ⟨rfl, -⟩
  · exact List.mem_cons_self
  · exact List.mem_of_getLast? rfl

theorem exact_after_reusedBase :
    Genuine (perform.log .empty reusedBase) ∧
      (issued (perform.log .empty reusedBase)).length < UInt64.size ∧
      Exact (perform.log .empty reusedBase) (perform.after .empty reusedBase) :=
  ⟨genuine_reusedBase, by decide, exact_after reusedBase genuine_reusedBase (by decide)⟩

end RegistrationTable

end NumaFabric
