namespace NumaFabric

/-- Where the items of a pool come from, and what is done to one that comes back. -/
structure Supply (α : Type) where
  make : Nat → α
  reset : α → α

structure Pool {α : Type} (supply : Supply α) where
  /-- Items that nobody holds, in the order in which they came back. -/
  idle : List α
  maxIdle : Nat
  made : Nat
  /-- The counter of the items made. It is one word, which wraps around. -/
  created : UInt64
  idle_le : idle.length ≤ maxIdle
  idle_reset : ∀ a ∈ idle, ∃ b, a = supply.reset b
  created_eq : created = .ofNat made

namespace Pool

variable {α : Type} {supply : Supply α}

def new (maxIdle : Nat) : Pool supply := ⟨[], maxIdle, 0, 0, Nat.zero_le _, nofun, rfl⟩

/-- Hands out the item that has been idle longest, or a new one. -/
def acquire (p : Pool supply) : α × Pool supply :=
  match h : p.idle with
  | [] =>
    (supply.make p.made, { p with
      made := p.made + 1
      created := p.created + 1
      created_eq := by rw [p.created_eq, UInt64.ofNat_add]; rfl })
  | a :: rest =>
    (a, { p with
      idle := rest
      idle_le := by
        have := p.idle_le
        simp only [h, List.length_cons] at this
        omega
      idle_reset := by
        intro b hb
        exact p.idle_reset b (h ▸ List.mem_cons_of_mem _ hb) })

def giveBack (p : Pool supply) (a : α) : Pool supply :=
  if h : p.idle.length < p.maxIdle then
    { p with
      idle := p.idle ++ [supply.reset a]
      idle_le := by simpa using Nat.succ_le_of_lt h
      idle_reset := by
        intro b hb
        rcases List.mem_append.mp hb with hidle | hback
        · exact p.idle_reset b hidle
        · exact ⟨a, List.mem_singleton.mp hback⟩ }
  else p

/-! All that a call can come to. -/

theorem acquire_of_idle {p : Pool supply} {a : α} {rest : List α} (h : p.idle = a :: rest) :
    p.acquire.1 = a ∧ p.acquire.2.idle = rest ∧ p.acquire.2.made = p.made ∧
      p.acquire.2.maxIdle = p.maxIdle := by
  unfold acquire
  split
  · rename_i hidle
    rw [hidle] at h
    cases h
  · rename_i b rest' hidle
    rw [hidle] at h
    cases h
    exact ⟨rfl, rfl, rfl, rfl⟩

theorem acquire_of_none {p : Pool supply} (h : p.idle = []) :
    p.acquire.1 = supply.make p.made ∧ p.acquire.2.idle = [] ∧
      p.acquire.2.made = p.made + 1 ∧ p.acquire.2.maxIdle = p.maxIdle := by
  unfold acquire
  split
  · exact ⟨rfl, h, rfl, rfl⟩
  · rename_i b rest hidle
    rw [hidle] at h
    cases h

theorem giveBack_of_lt {p : Pool supply} (h : p.idle.length < p.maxIdle) (a : α) :
    (p.giveBack a).idle = p.idle ++ [supply.reset a] ∧ (p.giveBack a).made = p.made ∧
      (p.giveBack a).maxIdle = p.maxIdle := by
  rw [giveBack, dif_pos h]
  exact ⟨rfl, rfl, rfl⟩

theorem giveBack_of_full {p : Pool supply} (h : p.idle.length = p.maxIdle) (a : α) :
    p.giveBack a = p := dif_neg (Nat.not_lt.mpr (Nat.le_of_eq h.symm))

end Pool

end NumaFabric
