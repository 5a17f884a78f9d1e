import NumaFabric.Proofs.Store.Floor

namespace NumaFabric.OrderedMap

variable {ν : Type} {base : ν → UInt64} {stop : ν → Nat}

/-- Ranges are kept under their bases, and of two of them one ends before the other begins. -/
structure Separated (base : ν → UInt64) (stop : ν → Nat) (m : OrderedMap UInt64 ν) : Prop where
  base_eq : ∀ k v, m.get? k = some v → base v = k
  apart : ∀ k k' v v', m.get? k = some v → m.get? k' = some v' → k ≠ k' →
    stop v ≤ (base v').toNat ∨ stop v' ≤ (base v).toNat

theorem separated_empty : Separated base stop empty where
  base_eq k v h := by simp at h
  apart k k' v v' h := by simp at h

theorem Separated.insert {m : OrderedMap UInt64 ν} (hm : m.Separated base stop) {k : UInt64} {v : ν}
    (hk : base v = k)
    (hv : ∀ j w, m.get? j = some w → j ≠ k →
      stop w ≤ (base v).toNat ∨ stop v ≤ (base w).toNat) :
    (m.insert k v).Separated base stop where
  base_eq j w h := by
    rcases m.get?_insert_eq_some h with ⟨rfl, rfl⟩ | ⟨-, hw⟩
    · exact hk
    · exact hm.base_eq j w hw
  apart j j' w w' h h' hne := by
    rcases m.get?_insert_eq_some h with ⟨rfl, rfl⟩ | ⟨hj, hw⟩ <;>
      rcases m.get?_insert_eq_some h' with ⟨rfl, rfl⟩ | ⟨hj', hw'⟩
    · exact absurd rfl hne
    · exact (hv j' w' hw' hj').symm
    · exact hv j w hw hj
    · exact hm.apart j j' w w' hw hw' hne

theorem Separated.replace {m : OrderedMap UInt64 ν} (hm : m.Separated base stop) {k : UInt64}
    {v v' : ν} (h : m.get? k = some v) (hbase : base v' = base v) (hstop : stop v' = stop v) :
    (m.insert k v').Separated base stop := by
  refine hm.insert (hbase.trans (hm.base_eq k v h)) fun j w hj hne => ?_
  rw [hbase, hstop]
  exact hm.apart j k w v hj h hne

theorem Separated.erase {m : OrderedMap UInt64 ν} (hm : m.Separated base stop) (k : UInt64) :
    (m.erase k).Separated base stop where
  base_eq j w h := hm.base_eq j w (m.get?_erase_eq_some h).2
  apart j j' w w' h h' hne :=
    hm.apart j j' w w' (m.get?_erase_eq_some h).2 (m.get?_erase_eq_some h').2 hne

theorem Separated.mapValues {m : OrderedMap UInt64 ν} (hm : m.Separated base stop)
    {f : UInt64 → ν → ν} (hbase : ∀ k v, base (f k v) = base v)
    (hstop : ∀ k v, stop (f k v) = stop v) : (m.mapValues f).Separated base stop where
  base_eq k v h := by
    rw [get?_mapValues, Option.map_eq_some_iff] at h
    obtain ⟨w, hw, rfl⟩ := h
    exact (hbase k w).trans (hm.base_eq k w hw)
  apart k k' v v' h h' hne := by
    rw [get?_mapValues, Option.map_eq_some_iff] at h h'
    obtain ⟨w, hw, rfl⟩ := h
    obtain ⟨w', hw', rfl⟩ := h'
    simpa only [hbase, hstop] using hm.apart k k' w w' hw hw' hne

theorem Separated.eq_of_base_eq {m : OrderedMap UInt64 ν} (hm : m.Separated base stop) {v w : ν}
    (hv : v ∈ m.values) (hw : w ∈ m.values) (h : base v = base w) : v = w := by
  obtain ⟨k, hk⟩ := m.mem_values_iff.mp hv
  obtain ⟨j, hj⟩ := m.mem_values_iff.mp hw
  have hkj : k = j := by rw [← hm.base_eq k v hk, ← hm.base_eq j w hj, h]
  subst hkj
  exact Option.some.inj (hk.symm.trans hj)

theorem Separated.mem_values_insert_iff {m : OrderedMap UInt64 ν} (hm : m.Separated base stop)
    {v w : ν} :
    w ∈ (m.insert (base v) v).values ↔ w = v ∨ (w ∈ m.values ∧ base w ≠ base v) := by
  simp only [mem_values_iff]
  constructor
  · rintro ⟨j, hj⟩
    rcases m.get?_insert_eq_some hj with ⟨-, rfl⟩ | ⟨hne, hw⟩
    · exact .inl rfl
    · exact .inr ⟨⟨j, hw⟩, fun heq => hne ((hm.base_eq j w hw).symm.trans heq)⟩
  · rintro (rfl | ⟨⟨j, hw⟩, hne⟩)
    · exact ⟨base w, m.get?_insert_self (base w) w⟩
    · refine ⟨j, (m.get?_insert_of_ne v fun heq => hne ?_).trans hw⟩
      rw [hm.base_eq j w hw, heq]

theorem Separated.mem_values_erase_iff {m : OrderedMap UInt64 ν} (hm : m.Separated base stop)
    {k : UInt64} {w : ν} : w ∈ (m.erase k).values ↔ w ∈ m.values ∧ base w ≠ k := by
  simp only [mem_values_iff]
  constructor
  · rintro ⟨j, hj⟩
    obtain ⟨hne, hw⟩ := m.get?_erase_eq_some hj
    exact ⟨⟨j, hw⟩, fun heq => hne ((hm.base_eq j w hw).symm.trans heq)⟩
  · rintro ⟨⟨j, hw⟩, hne⟩
    refine ⟨j, (m.get?_erase_of_ne fun heq => hne ?_).trans hw⟩
    rw [hm.base_eq j w hw, heq]

theorem Separated.insert_of_any_eq_false {m : OrderedMap UInt64 ν} (hm : m.Separated base stop)
    (v : ν)
    (hfree : m.values.any
      (fun w => (base v).toNat < stop w && (base w).toNat < stop v) = false) :
    (m.insert (base v) v).Separated base stop := by
  refine hm.insert rfl fun j w hj _ => ?_
  have hw := List.any_eq_false.mp hfree w (m.mem_values_iff.mpr ⟨j, hj⟩)
  simp only [Bool.and_eq_true, decide_eq_true_eq, not_and, Nat.not_lt] at hw
  rcases Nat.lt_or_ge (base v).toNat (stop w) with hlt | hge
  · exact .inr (hw hlt)
  · exact .inl hge

/-- The range that a number lies in is the one with the greatest base that is not above it. -/
theorem Separated.floor?_eq_some {m : OrderedMap UInt64 ν} (hm : m.Separated base stop)
    (hle : ∀ w, (base w).toNat ≤ stop w) {k : UInt64} {v : ν} (h : m.get? k = some v) {a : UInt64}
    (hbase : (base v).toNat ≤ a.toNat) (hstop : a.toNat < stop v) :
    m.floor? a = some (k, v) := by
  have hk := hm.base_eq k v h
  refine m.floor?_word_eq_some_iff.mpr ⟨h, hk ▸ hbase, fun j w hj hja => ?_⟩
  by_cases hjk : j = k
  · exact Nat.le_of_eq (congrArg UInt64.toNat hjk)
  · have hwj := hm.base_eq j w hj
    have hw := hle w
    -- a range that begins in between would begin inside this one
    rcases hm.apart j k w v hj h hjk with hapart | hapart
    · rw [← hk, ← hwj]
      omega
    · rw [hwj] at hapart
      omega

end NumaFabric.OrderedMap
