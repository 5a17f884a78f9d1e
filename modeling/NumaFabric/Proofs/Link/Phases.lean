import NumaFabric.Proofs.Link.Exchange

namespace NumaFabric

namespace Phase

def rank : Phase → Nat
  | created => 0
  | ready => 1
  | closed => 2

theorem rank_injective : Function.Injective rank := by
  intro p q h
  cases p <;> cases q <;> simp [rank] at h ⊢

theorem rank_le_closed (p : Phase) : p.rank ≤ closed.rank := by
  cases p <;> decide

end Phase

namespace LoopbackNet

variable {net net' : LoopbackNet} {n m : Nat} {e e' e₀ : LoopbackEndpoint}

inductive Moves (n : Nat) : Call → Phase → Phase → Prop
  | stays {call : Call} (p : Phase) : Moves n call p p
  | init : Moves n (.on n .init) .created .ready
  | close {p : Phase} (hopen : p ≠ .closed) : Moves n (.on n .close) p .closed

theorem Moves.rank_le {call : Call} {p q : Phase} (h : Moves n call p q) : p.rank ≤ q.rank := by
  cases h with
  | stays => exact Nat.le_refl _
  | init => decide
  | close _ => exact p.rank_le_closed

theorem endpoint?_set_eq_some (hn : net.endpoint? n = some e)
    (h : (net.set n e₀).endpoint? m = some e') :
    (m = n ∧ e' = e₀) ∨ (m ≠ n ∧ net.endpoint? m = some e') := by
  by_cases hmn : m = n
  · subst hmn
    obtain ⟨hget, -⟩ := endpoint?_eq_some_iff.mp h
    rw [set, List.getElem?_set_self (lt_length_of_endpoint? hn)] at hget
    exact .inl ⟨rfl, (Option.some.inj hget).symm⟩
  · rw [endpoint?_set_of_ne hmn] at h
    exact .inr ⟨hmn, h⟩

theorem exists_moves_of_set {call : Call} (hn : net.endpoint? n = some e)
    (hmoves : e₀.destroyed = false → Moves n call e.phase e₀.phase)
    (h : (net.set n e₀).endpoint? m = some e') :
    ∃ e, net.endpoint? m = some e ∧ Moves m call e.phase e'.phase := by
  have hlive := (endpoint?_eq_some_iff.mp h).2
  rcases endpoint?_set_eq_some hn h with ⟨rfl, rfl⟩ | ⟨-, hm⟩
  · exact ⟨e, hn, hmoves hlive⟩
  · exact ⟨e', hm, .stays _⟩

theorem Outcome.exists_moves {action : Action} {reply : Reply} (hn : net.endpoint? n = some e)
    (hout : Outcome net n e action reply net') (h : net'.endpoint? m = some e') :
    ∃ e, net.endpoint? m = some e ∧ Moves m (.on n action) e.phase e'.phase := by
  cases hout with
  | refused | pending | closedBefore => exact ⟨e', h, .stays _⟩
  | init hcreated =>
      refine exists_moves_of_set hn (fun _ => ?_) h
      rw [hcreated]
      exact .init
  | setPeer | received | registered | unregistered =>
      refine exists_moves_of_set hn (fun _ => ?_) h
      exact .stays _
  | sent _ _ htarget =>
      rcases endpoint?_set_eq_some htarget h with ⟨rfl, rfl⟩ | ⟨-, hm⟩
      · exact ⟨_, htarget, .stays _⟩
      · exact ⟨e', hm, .stays _⟩
  | closed hopen => exact exists_moves_of_set hn (fun _ => .close hopen) h
  | destroyed =>
      refine exists_moves_of_set hn (fun hlive => ?_) h
      cases hlive

theorem exists_moves (hmade : m < net.endpoints.length) (call : Call)
    (h : (perform net call).2.endpoint? m = some e') :
    ∃ e, net.endpoint? m = some e ∧ Moves m call e.phase e'.phase := by
  cases call with
  | create =>
      rw [endpoint?_create_of_ne (Nat.ne_of_lt hmade)] at h
      exact ⟨e', h, .stays _⟩
  | on n action =>
      cases hn : net.endpoint? n with
      | none =>
          simp only [perform, hn] at h
          exact ⟨e', h, .stays _⟩
      | some e =>
          simp only [perform, hn] at h
          exact (outcome_act net n e action).exists_moves hn h

theorem Outcome.length_eq {action : Action} {reply : Reply}
    (hout : Outcome net n e action reply net') :
    net'.endpoints.length = net.endpoints.length := by
  cases hout with
  | refused | pending | closedBefore => rfl
  | _ => exact length_set ..

theorem length_le_perform (net : LoopbackNet) (call : Call) :
    net.endpoints.length ≤ (perform net call).2.endpoints.length := by
  cases call with
  | create =>
      change _ ≤ (net.endpoints ++ [LoopbackEndpoint.new]).length
      rw [List.length_append]
      exact Nat.le_add_right _ _
  | on n action =>
      cases hn : net.endpoint? n with
      | none => simp only [perform, hn, Nat.le_refl]
      | some e =>
          simp only [perform, hn]
          exact Nat.le_of_eq (outcome_act net n e action).length_eq.symm

/-- No endpoint goes back to an earlier phase, or comes back once it is destroyed. -/
theorem exists_rank_le (later : List Call) (hmade : m < net.endpoints.length)
    (h : (perform.after net later).endpoint? m = some e') :
    ∃ e, net.endpoint? m = some e ∧ e.phase.rank ≤ e'.phase.rank := by
  induction later generalizing net with
  | nil => exact ⟨e', h, Nat.le_refl _⟩
  | cons call later ih =>
      obtain ⟨e₁, h₁, hle₁⟩ := ih (Nat.lt_of_lt_of_le hmade (net.length_le_perform call)) h
      obtain ⟨e, hm, hmoves⟩ := exists_moves hmade call h₁
      exact ⟨e, hm, Nat.le_trans hmoves.rank_le hle₁⟩

def IsReady (net : LoopbackNet) (n : Nat) : Prop :=
  ∃ e, net.endpoint? n = some e ∧ e.phase = .ready

theorem IsReady.between {call : Call} {later : List Call} (h : net.IsReady n)
    (hlater : (perform.after net (call :: later)).IsReady n) :
    (perform net call).2.IsReady n := by
  obtain ⟨e, hn, hready⟩ := h
  obtain ⟨e₂, hn₂, hready₂⟩ := hlater
  have hmade := lt_length_of_endpoint? hn
  obtain ⟨e₁, hn₁, hle⟩ :=
    exists_rank_le later (Nat.lt_of_lt_of_le hmade (net.length_le_perform call)) hn₂
  obtain ⟨e₀, hn₀, hmoves⟩ := exists_moves hmade call hn₁
  obtain rfl := Option.some.inj (hn.symm.trans hn₀)
  refine ⟨e₁, hn₁, Phase.rank_injective (Nat.le_antisymm ?_ ?_)⟩
  · rw [← hready₂]
    exact hle
  · rw [← hready]
    exact hmoves.rank_le

theorem perform_close_of_closed (hn : net.endpoint? n = some e) (hclosed : e.phase = .closed) :
    perform net (.on n .close) = (.done, net) := by
  simp only [perform, hn, act, close, if_pos hclosed]

theorem perform_close_twice (net : LoopbackNet) (n : Nat) :
    perform (perform net (.on n .close)).2 (.on n .close) = perform net (.on n .close) := by
  cases hn : net.endpoint? n with
  | none => simp only [perform, hn]
  | some e =>
      by_cases hclosed : e.phase = .closed
      · rw [perform_close_of_closed hn hclosed, perform_close_of_closed hn hclosed]
      · have honce : perform net (.on n .close) = (.done, net.set n { e with
            phase := .closed, peer := none, registrations := e.registrations.clear.2 }) := by
          simp only [perform, hn, act, close, if_neg hclosed]
        have hlive := (endpoint?_eq_some_iff.mp hn).2
        rw [honce]
        exact perform_close_of_closed (endpoint?_set_self hn hlive) rfl

theorem isReady_of_init (hn : net.endpoint? n = some e) (hcreated : e.phase = .created) :
    (perform net (.on n .init)).1 = .done ∧ (perform net (.on n .init)).2.IsReady n := by
  have hinit : perform net (.on n .init) = (.done, net.set n { e with phase := .ready }) := by
    simp only [perform, hn, act, init, hcreated, Phase.init]
    rfl
  have hlive := (endpoint?_eq_some_iff.mp hn).2
  rw [hinit]
  exact ⟨rfl, _, endpoint?_set_self hn hlive, rfl⟩

theorem perform_of_not_ready (hn : net.endpoint? n = some e) (hready : e.phase ≠ .ready)
    {action : Action} (hneeds : action.needsReady = true) :
    ∃ cause, e.phase.ensureReady = .error cause ∧
      perform net (.on n action) = (.failed cause, net) := by
  obtain ⟨cause, hcause⟩ := exists_ensureReady_eq_error hready
  refine ⟨cause, hcause, ?_⟩
  simp only [perform, hn]
  exact act_of_not_ready hneeds hcause

end LoopbackNet

end NumaFabric
