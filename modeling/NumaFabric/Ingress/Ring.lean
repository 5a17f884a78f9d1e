namespace NumaFabric

structure Ring (α : Type) where
  items : List α
  capacity : Nat
  closed : Bool
  capacity_pos : 0 < capacity
  length_le : items.length ≤ capacity

namespace Ring

variable {α : Type}

inductive CapacityError where
  | zero
  | tooLarge

namespace CapacityError

def message : CapacityError → String
  | zero => "ring capacity must be non-zero"
  | tooLarge => "capacity overflow"

end CapacityError

/-- The least capacity that is too large: no item takes less than 32 bytes. -/
def capacityLimit : Nat := UInt64.size / 2 / 32

def vacant (capacity : Nat) (h : 0 < capacity) : Ring α := ⟨[], capacity, false, h, Nat.zero_le _⟩

def new (capacity : Nat) : Except CapacityError (Ring α) :=
  if h : 0 < capacity then
    if capacity ≥ capacityLimit then .error .tooLarge
    else .ok (vacant capacity h)
  else .error .zero

inductive PushError (α : Type) where
  | full (item : α)
  | closed (item : α)
deriving DecidableEq

def push (r : Ring α) (item : α) : Except (PushError α) (Ring α) :=
  if r.closed then .error (.closed item)
  else if h : r.items.length < r.capacity then
    .ok { r with
      items := r.items ++ [item]
      length_le := by simpa using Nat.succ_le_of_lt h }
  else .error (.full item)

inductive Popped (α : Type) where
  | item (a : α)
  /-- The ring is closed, and nothing is left in it. -/
  | finished
  /-- Nothing is in the ring yet. -/
  | pending
deriving DecidableEq

def pop (r : Ring α) : Popped α × Ring α :=
  match h : r.items with
  | a :: rest =>
    (.item a, { r with
      items := rest
      length_le := by
        have := r.length_le
        simp only [h, List.length_cons] at this
        omega })
  | [] => (if r.closed then .finished else .pending, r)

def close (r : Ring α) : Ring α := { r with closed := true }

def size (r : Ring α) : Nat := r.items.length

def isEmpty (r : Ring α) : Bool := r.items.isEmpty

def drain (r : Ring α) : List α × Ring α :=
  (r.items, { r with items := [], length_le := Nat.zero_le _ })

def debugText (r : Ring α) : String :=
  s!"RingBuffer \x7b len: {r.size}, capacity: {r.capacity}, closed: {r.closed} \x7d"

theorem eq_vacant_of_new {capacity : Nat} {r : Ring α} (h : new capacity = .ok r)
    (hpos : 0 < capacity) : r = vacant capacity hpos := by
  unfold new at h
  rw [dif_pos hpos] at h
  split at h
  · cases h
  · cases h
    rfl

theorem push_cases (r : Ring α) (a : α) :
    (r.closed = true ∧ r.push a = .error (.closed a)) ∨
    (r.closed = false ∧ r.items.length = r.capacity ∧ r.push a = .error (.full a)) ∨
    (r.closed = false ∧ r.items.length < r.capacity ∧ ∃ r', r.push a = .ok r' ∧
      r'.items = r.items ++ [a] ∧ r'.capacity = r.capacity ∧ r'.closed = false) := by
  unfold push
  split
  · rename_i hclosed
    exact .inl ⟨hclosed, rfl⟩
  · rename_i hopen
    rw [Bool.not_eq_true] at hopen
    right
    split
    · rename_i hroom
      exact .inr ⟨hopen, hroom, _, rfl, rfl, rfl, hopen⟩
    · rename_i hfull
      exact .inl ⟨hopen, Nat.le_antisymm r.length_le (Nat.not_lt.mp hfull), rfl⟩

theorem pop_cases (r : Ring α) :
    (∃ a r', r.pop = (.item a, r') ∧ r.items = a :: r'.items ∧ r'.capacity = r.capacity ∧
      r'.closed = r.closed) ∨
    (r.items = [] ∧ r.closed = true ∧ r.pop = (.finished, r)) ∨
    (r.items = [] ∧ r.closed = false ∧ r.pop = (.pending, r)) := by
  obtain ⟨items, capacity, closed, hpos, hle⟩ := r
  cases items with
  | cons a rest => exact .inl ⟨a, _, rfl, rfl, rfl, rfl⟩
  | nil =>
      cases closed with
      | true => exact .inr (.inl ⟨rfl, rfl, rfl⟩)
      | false => exact .inr (.inr ⟨rfl, rfl, rfl⟩)

end Ring

end NumaFabric
