import NumaFabric.Wire.Command

namespace NumaFabric

/-- The last address, which no range reaches past. -/
def topAddress : Nat := UInt64.size - 1

/-- The end of a range of `size` addresses, cut at the top of the space. -/
def rangeEnd (base size : UInt64) : Nat := min (base.toNat + size.toNat) topAddress

theorem le_rangeEnd (base size : UInt64) : base.toNat ≤ rangeEnd base size := by
  have := base.toNat_lt
  simp only [rangeEnd, topAddress, UInt64.size]
  omega

structure Region where
  base : Address
  size : UInt64
deriving DecidableEq

namespace Region

def stop (r : Region) : Nat := rangeEnd r.base r.size

/-- The `length` addresses from `a` on lie in the region; none from its end on are no exception. -/
def Contains (r : Region) (a : Address) (length : Nat) : Prop :=
  r.base.toNat ≤ a.toNat ∧ a.toNat + length ≤ r.stop

instance (r : Region) (a : Address) (length : Nat) : Decidable (r.Contains a length) :=
  inferInstanceAs (Decidable (_ ∧ _))

theorem stop_le (r : Region) : r.stop ≤ r.base.toNat + r.size.toNat := Nat.min_le_left _ _

theorem Contains.offset_add_le {r : Region} {a : Address} {length : Nat}
    (h : r.Contains a length) : a.toNat - r.base.toNat + length ≤ r.size.toNat := by
  have := r.stop_le
  have := h.1
  have := h.2
  omega

end Region

end NumaFabric
