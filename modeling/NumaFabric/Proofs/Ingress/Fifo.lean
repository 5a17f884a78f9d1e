import NumaFabric.Ingress.Ring
import NumaFabric.Proofs.Runs.Transcript

namespace NumaFabric.Ring

variable {α : Type}

inductive Call (α : Type) where
  | push (item : α)
  | pop
  | close
deriving DecidableEq

def Call.isPop : Call α → Bool
  | pop => true
  | _ => false

inductive Reply (α : Type) where
  | accepted
  | handedBack (cause : PushError α)
  | popped (outcome : Popped α)
  | closed
deriving DecidableEq

/-- A consumer that finds nothing yet goes on waiting, and looks again in a later call. -/
def perform (r : Ring α) : Call α → Reply α × Ring α
  | .push item =>
    match r.push item with
    | .ok r' => (.accepted, r')
    | .error cause => (.handedBack cause, r)
  | .pop => (.popped r.pop.1, r.pop.2)
  | .close => (.closed, r.close)

def acceptedItem? : Call α × Reply α → Option α
  | (.push a, .accepted) => some a
  | _ => none

def poppedItem? : Call α × Reply α → Option α
  | (_, .popped (.item a)) => some a
  | _ => none

def accepted (log : List (Call α × Reply α)) : List α := log.filterMap acceptedItem?

def popped (log : List (Call α × Reply α)) : List α := log.filterMap poppedItem?

theorem accepted_append (log log' : List (Call α × Reply α)) :
    accepted (log ++ log') = accepted log ++ accepted log' := List.filterMap_append ..

theorem popped_append (log log' : List (Call α × Reply α)) :
    popped (log ++ log') = popped log ++ popped log' := List.filterMap_append ..

/-! What one call does. -/

theorem perform_push_cases (r : Ring α) (a : α) :
    (r.closed = true ∧ r.perform (.push a) = (.handedBack (.closed a), r)) ∨
    (r.closed = false ∧ r.items.length = r.capacity ∧
      r.perform (.push a) = (.handedBack (.full a), r)) ∨
    (r.closed = false ∧ r.items.length < r.capacity ∧ ∃ r', r.perform (.push a) = (.accepted, r') ∧
      r'.items = r.items ++ [a] ∧ r'.capacity = r.capacity ∧ r'.closed = false) := by
  obtain ⟨hclosed, hpush⟩ | ⟨hopen, hfull, hpush⟩ | ⟨hopen, hroom, r', hpush, h⟩ := r.push_cases a
  · exact .inl ⟨hclosed, by simp only [perform, hpush]⟩
  · exact .inr (.inl ⟨hopen, hfull, by simp only [perform, hpush]⟩)
  · exact .inr (.inr ⟨hopen, hroom, r', by simp only [perform, hpush], h⟩)

theorem perform_pop_cases (r : Ring α) :
    (∃ a r', r.perform .pop = (.popped (.item a), r') ∧ r.items = a :: r'.items ∧
      r'.capacity = r.capacity ∧ r'.closed = r.closed) ∨
    (r.items = [] ∧ r.closed = true ∧ r.perform .pop = (.popped .finished, r)) ∨
    (r.items = [] ∧ r.closed = false ∧ r.perform .pop = (.popped .pending, r)) := by
  obtain ⟨a, r', hpop, h⟩ | ⟨hempty, hclosed, hpop⟩ | ⟨hempty, hopen, hpop⟩ := r.pop_cases
  · exact .inl ⟨a, r', by simp only [perform, hpop], h⟩
  · exact .inr (.inl ⟨hempty, hclosed, by simp only [perform, hpop]⟩)
  · exact .inr (.inr ⟨hempty, hopen, by simp only [perform, hpop]⟩)

theorem items_append_accepted (r : Ring α) (call : Call α) :
    r.items ++ accepted [(call, (r.perform call).1)] =
      popped [(call, (r.perform call).1)] ++ (r.perform call).2.items := by
  cases call with
  | push a =>
      obtain ⟨-, hp⟩ | ⟨-, -, hp⟩ | ⟨-, -, r', hp, hitems, -⟩ := r.perform_push_cases a <;> rw [hp]
      · exact List.append_nil r.items
      · exact List.append_nil r.items
      · exact hitems.symm
  | pop =>
      obtain ⟨a, r', hp, hitems, -⟩ | ⟨-, -, hp⟩ | ⟨-, -, hp⟩ := r.perform_pop_cases <;> rw [hp]
      · exact (List.append_nil r.items).trans hitems
      · exact List.append_nil r.items
      · exact List.append_nil r.items
  | close => exact List.append_nil r.items

theorem capacity_perform (r : Ring α) (call : Call α) :
    (r.perform call).2.capacity = r.capacity := by
  cases call with
  | push a =>
      obtain ⟨-, hp⟩ | ⟨-, -, hp⟩ | ⟨-, -, r', hp, -, hcapacity, -⟩ := r.perform_push_cases a <;>
        rw [hp]
      exact hcapacity
  | pop =>
      obtain ⟨a, r', hp, -, hcapacity, -⟩ | ⟨-, -, hp⟩ | ⟨-, -, hp⟩ := r.perform_pop_cases <;>
        rw [hp]
      exact hcapacity
  | close => rfl

theorem closed_perform_iff (r : Ring α) (call : Call α) :
    (r.perform call).2.closed = true ↔ r.closed = true ∨ call = .close := by
  cases call with
  | push a =>
      obtain ⟨-, hp⟩ | ⟨-, -, hp⟩ | ⟨hopen, -, r', hp, -, -, hopen'⟩ := r.perform_push_cases a <;>
        rw [hp]
      · simp
      · simp
      · simp [hopen, hopen']
  | pop =>
      obtain ⟨a, r', hp, -, -, hsame⟩ | ⟨-, -, hp⟩ | ⟨-, -, hp⟩ := r.perform_pop_cases <;> rw [hp]
      · simp [hsame]
      · simp
      · simp
  | close => simp [perform, close]

/-! Runs. -/

/-- The books balance: nothing that was accepted is lost, doubled or out of its place. -/
structure Balanced (capacity : Nat) (log : List (Call α × Reply α)) (r : Ring α) : Prop where
  accepted_eq : accepted log = popped log ++ r.items
  capacity_eq : r.capacity = capacity
  closed_iff : r.closed = true ↔ ∃ e ∈ log, e.1 = .close

theorem balanced_vacant {capacity : Nat} (hpos : 0 < capacity) :
    Balanced capacity [] (vacant capacity hpos : Ring α) where
  accepted_eq := rfl
  capacity_eq := rfl
  closed_iff := by simp [vacant]

theorem Balanced.perform {capacity : Nat} {log : List (Call α × Reply α)} {r : Ring α}
    (h : Balanced capacity log r) (call : Call α) :
    Balanced capacity (log ++ [(call, (r.perform call).1)]) (r.perform call).2 where
  accepted_eq := by
    rw [accepted_append, popped_append, h.accepted_eq, List.append_assoc, List.append_assoc,
      r.items_append_accepted call]
  capacity_eq := by rw [capacity_perform, h.capacity_eq]
  closed_iff := by
    rw [closed_perform_iff, h.closed_iff]
    simp [or_and_right, exists_or]

/-- A closed ring takes nothing in and gives out what it holds, one item for each pop. -/
theorem drains_of_closed {r : Ring α} (h : r.closed = true) (calls : List (Call α)) :
    accepted (Machine.log perform r calls) = [] ∧
      popped (Machine.log perform r calls) = r.items.take (calls.countP Call.isPop) := by
  induction calls generalizing r with
  | nil => exact ⟨rfl, by simp [Machine.log, popped]⟩
  | cons call calls ih =>
      have hrest := ih ((r.closed_perform_iff call).mpr (.inl h))
      rw [Machine.log, ← List.singleton_append, accepted_append, popped_append, hrest.1, hrest.2]
      cases call with
      | push a =>
          obtain ⟨-, hp⟩ | ⟨hopen, -⟩ | ⟨hopen, -⟩ := r.perform_push_cases a
          · rw [hp]
            exact ⟨rfl, rfl⟩
          · simp [h] at hopen
          · simp [h] at hopen
      | pop =>
          obtain ⟨a, r', hp, hitems, -⟩ | ⟨hempty, -, hp⟩ | ⟨-, hopen, -⟩ := r.perform_pop_cases
          · rw [hp, hitems, List.countP_cons_of_pos rfl]
            exact ⟨rfl, rfl⟩
          · rw [hp, hempty, List.take_nil, List.take_nil]
            exact ⟨rfl, rfl⟩
          · simp [h] at hopen
      | close => exact ⟨rfl, rfl⟩

/-- What holds of a ring after the calls of `log`. -/
structure Orderly (capacity : Nat) (log : List (Call α × Reply α)) (r : Ring α) : Prop where
  accepted_eq : accepted log = popped log ++ r.items
  size_le : r.size ≤ capacity
  closed_iff : r.closed = true ↔ ∃ e ∈ log, e.1 = .close
  full_iff : ∀ a b, (r.perform (.push a)).1 = .handedBack (.full b) ↔
    b = a ∧ r.closed = false ∧ r.size = capacity
  refused_iff : ∀ a b, (r.perform (.push a)).1 = .handedBack (.closed b) ↔ b = a ∧ r.closed = true
  handedBack_unchanged : ∀ a cause, (r.perform (.push a)).1 = .handedBack cause →
    (r.perform (.push a)).2 = r
  finished_iff : (r.perform .pop).1 = .popped .finished ↔ r.closed = true ∧ r.items = []
  pending_iff : (r.perform .pop).1 = .popped .pending ↔ r.closed = false ∧ r.items = []
  drains : r.closed = true → ∀ calls : List (Call α),
    accepted (Machine.log perform r calls) = [] ∧
      popped (Machine.log perform r calls) = r.items.take (calls.countP Call.isPop)

theorem orderly_after (capacity : Nat) (hpos : 0 < capacity) (calls : List (Call α)) :
    (∀ r : Ring α, new capacity = .ok r → r = vacant capacity hpos) ∧
      Orderly capacity (Machine.log perform (vacant capacity hpos) calls)
        (Machine.after perform (vacant capacity hpos) calls) := by
  have hbalanced : Balanced capacity (Machine.log perform (vacant capacity hpos) calls)
      (Machine.after perform (vacant capacity hpos) calls) :=
    Machine.invariant perform (balanced_vacant hpos) (fun _ _ call h => h.perform call) calls
  refine ⟨fun r hnew => eq_vacant_of_new hnew hpos, ?_⟩
  generalize Machine.after perform (vacant capacity hpos) calls = r at hbalanced ⊢
  obtain ⟨heq, hcapacity, hclosed⟩ := hbalanced
  constructor
  case accepted_eq => exact heq
  case size_le => exact hcapacity ▸ r.length_le
  case closed_iff => exact hclosed
  case full_iff =>
    intro a b
    rw [size, ← hcapacity]
    obtain ⟨hc, hp⟩ | ⟨hc, hfull, hp⟩ | ⟨hc, hroom, r', hp, -⟩ := r.perform_push_cases a <;> rw [hp]
    · simp [hc]
    · simp [hc, hfull, eq_comm]
    · simp [Nat.ne_of_lt hroom]
  case refused_iff =>
    intro a b
    obtain ⟨hc, hp⟩ | ⟨hc, -, hp⟩ | ⟨hc, -, r', hp, -⟩ := r.perform_push_cases a <;> rw [hp]
    · simp [hc, eq_comm]
    · simp [hc]
    · simp [hc]
  case handedBack_unchanged =>
    intro a cause hback
    obtain ⟨-, hp⟩ | ⟨-, -, hp⟩ | ⟨-, -, r', hp, -⟩ := r.perform_push_cases a <;> rw [hp] at hback ⊢
    cases hback
  case finished_iff =>
    obtain ⟨a, r', hp, hitems, -⟩ | ⟨hempty, hc, hp⟩ | ⟨hempty, hc, hp⟩ :=
      r.perform_pop_cases <;> rw [hp]
    · simp [hitems]
    · simp [hc, hempty]
    · simp [hc]
  case pending_iff =>
    obtain ⟨a, r', hp, hitems, -⟩ | ⟨hempty, hc, hp⟩ | ⟨hempty, hc, hp⟩ :=
      r.perform_pop_cases <;> rw [hp]
    · simp [hitems]
    · simp [hc]
    · simp [hc, hempty]
  case drains => exact drains_of_closed

def rush : List (Call Nat × Reply Nat) :=
  [(.pop, .popped .pending), (.push 1, .accepted), (.push 2, .accepted),
    (.push 3, .handedBack (.full 3)), (.close, .closed), (.push 4, .handedBack (.closed 4)),
    (.pop, .popped (.item 1)), (.pop, .popped (.item 2)), (.pop, .popped .finished)]

theorem orderly_after_rush :
    0 < 2 ∧ Machine.log perform (vacant 2 (by decide)) (rush.map (·.1)) = rush ∧
      Orderly 2 rush (Machine.after perform (vacant 2 (by decide)) (rush.map (·.1))) := by
  have hlog : Machine.log perform (vacant 2 (by decide)) (rush.map (·.1)) = rush := by decide
  refine ⟨by decide, hlog, ?_⟩
  have horderly := (orderly_after 2 (by decide) (rush.map (·.1))).2
  rwa [hlog] at horderly

end NumaFabric.Ring
