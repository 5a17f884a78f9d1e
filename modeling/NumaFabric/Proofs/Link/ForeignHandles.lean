import NumaFabric.Proofs.Link.Outstanding

namespace NumaFabric.RegistrationTable

variable {ι : Type} [DecidableEq ι]

def performAt : Machine (ι → RegistrationTable) (ι × Call) Reply
  | tables, (k, call) =>
    ((perform (tables k) call).1, Function.update tables k (perform (tables k) call).2)

def logOf (k : ι) (log : List ((ι × Call) × Reply)) : List (Call × Reply) :=
  log.filterMap fun e => if e.1.1 = k then some (e.1.2, e.2) else none

theorem logOf_concat_self (k : ι) (call : Call) (reply : Reply)
    (log : List ((ι × Call) × Reply)) :
    logOf k (log ++ [((k, call), reply)]) = logOf k log ++ [(call, reply)] := by
  simp [logOf]

theorem logOf_concat_of_ne {k j : ι} (h : j ≠ k) (call : Call) (reply : Reply)
    (log : List ((ι × Call) × Reply)) :
    logOf k (log ++ [((j, call), reply)]) = logOf k log := by
  simp [logOf, h]

theorem tracks_each (calls : List (ι × Call)) (k : ι) :
    Tracks (logOf k (performAt.log (fun _ => empty) calls))
      (performAt.after (fun _ => empty) calls k) := by
  refine performAt.invariant (s := fun _ => empty)
    (P := fun log tables => Tracks (logOf k log) (tables k)) tracks_empty ?_ calls
  rintro log tables ⟨j, call⟩ h
  by_cases hj : j = k
  · subst hj
    rw [logOf_concat_self]
    simp only [performAt, Function.update_self]
    exact h.step (step_perform (tables j) call)
  · rw [logOf_concat_of_ne hj]
    simp only [performAt, Function.update_of_ne (Ne.symm hj)]
    exact h

/-- What becomes of a handle that is given to the table `k`. -/
structure TakesByNumber (log : List ((ι × Call) × Reply)) (tables : ι → RegistrationTable) (k : ι)
    (given : RegistrationHandle) : Prop where
  taken_iff : (performAt tables (k, .unregister given)).1 = .unregistered ↔
    ∃ live, Registered live (logOf k log) ∧ given.Matches live
  /-- What it matches ends, and all other registrations of all tables go on. -/
  ends : ∀ live, Registered live (logOf k log) → given.Matches live → ∀ j h,
    h ∈ ((performAt tables (k, .unregister given)).2 j).live.values ↔
      h ∈ (tables j).live.values ∧ ¬ (j = k ∧ h = live)
  refused : (∀ live, Registered live (logOf k log) → ¬ given.Matches live) →
    performAt tables (k, .unregister given) =
      (.failed (.notRegistered given.region.base), tables)

theorem takesByNumber_after (calls : List (ι × Call)) (k : ι) (given : RegistrationHandle) :
    TakesByNumber (performAt.log (fun _ => empty) calls)
      (performAt.after (fun _ => empty) calls) k given := by
  have htracks := tracks_each calls k
  have hrefused (hnone : ∀ live,
      Registered live (logOf k (performAt.log (fun _ => empty) calls)) → ¬ given.Matches live) :
      performAt (performAt.after (fun _ => empty) calls) (k, .unregister given) =
        (.failed (.notRegistered given.region.base),
          performAt.after (fun _ => empty) calls) := by
    rw [performAt, htracks.unregister_of_unmatched hnone, Function.update_eq_self]
  constructor
  case taken_iff =>
    constructor
    · intro htaken
      by_contra hnone
      rw [hrefused fun live hstands hmatches => hnone ⟨live, hstands, hmatches⟩] at htaken
      cases htaken
    · rintro ⟨live, hstands, hmatches⟩
      exact (htracks.unregister_of_matches hstands hmatches).1
  case ends =>
    intro live hstands hmatches j h
    by_cases hj : j = k
    · subst hj
      simp only [performAt, Function.update_self, true_and]
      exact (htracks.unregister_of_matches hstands hmatches).2 h
    · simp only [performAt, Function.update_of_ne hj, hj, false_and, not_false_eq_true, and_true]
  case refused => exact hrefused

/-- Of two tables with a registration of one base, one takes the handle of the other. -/
theorem not_forall_foreign_refused :
    ¬ ∀ (calls : List (Bool × Call)) (k j : Bool) (given : RegistrationHandle), k ≠ j →
      given ∈ issued (logOf j (performAt.log (fun _ => empty) calls)) →
      given ∉ issued (logOf k (performAt.log (fun _ => empty) calls)) →
      (performAt (performAt.after (fun _ => empty) calls) (k, .unregister given)).1 =
        .failed (.notRegistered given.region.base) := by
  intro h
  have hrefused := h [(false, .register ⟨1, 1⟩), (true, .register ⟨1, 2⟩)] true false
    ⟨1, ⟨1, 1⟩⟩ (by decide) (by decide) (by decide)
  exact absurd hrefused (by decide)

end NumaFabric.RegistrationTable
