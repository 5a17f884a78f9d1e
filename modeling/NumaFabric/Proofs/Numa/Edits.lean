import Mathlib.Data.List.Induction
import NumaFabric.Proofs.Numa.Ranges
/-!
Runs of additions, moves and removals on an address map. A range is added exactly if it is not empty
and shares no address with another one, except that the last address of the space may be shared: no
range ends after it, so nothing is seen to overlap there. Main statements: what each change does to
the ranges, and that a range at the last address can be lost to another one there.
-/

namespace NumaFabric

def lastAddress : Address := 0xffffffffffffffff

theorem toNat_lastAddress : lastAddress.toNat = topAddress := rfl

theorem eq_lastAddress_iff (a : Address) : a = lastAddress ↔ topAddress ≤ a.toNat := by
  have := a.toNat_lt
  rw [← UInt64.toNat_inj, toNat_lastAddress, topAddress, UInt64.size]
  omega

namespace AddressRange

/-- The address is one of the range, which may run past the end of the space. -/
def Covers (r : AddressRange) (a : Address) : Prop :=
  r.base.toNat ≤ a.toNat ∧ a.toNat < r.base.toNat + r.length.toNat

instance (r : AddressRange) (a : Address) : Decidable (r.Covers a) :=
  inferInstanceAs (Decidable (_ ∧ _))

theorem lt_stop_iff (r : AddressRange) {a : Nat} :
    a < r.stop ↔ a < r.base.toNat + r.length.toNat ∧ a < topAddress := Nat.lt_min

/-- Ranges that begin before each other's ends are those that share an address before the last. -/
theorem overlap_iff {r r' : AddressRange} (hr : 0 < r.length) (hr' : 0 < r'.length) :
    (r.base.toNat < r'.stop ∧ r'.base.toNat < r.stop) ↔
      ∃ a, r.Covers a ∧ r'.Covers a ∧ a ≠ lastAddress := by
  rw [UInt64.lt_iff_toNat_lt, UInt64.toNat_zero] at hr hr'
  simp only [lt_stop_iff, Covers, Ne, eq_lastAddress_iff, Nat.not_le]
  constructor
  · rintro ⟨⟨hbase, htop⟩, hbase', htop'⟩
    -- the greater of the two bases lies in both
    rcases Nat.le_total r.base.toNat r'.base.toNat with hle | hle
    · exact ⟨r'.base, by omega⟩
    · exact ⟨r.base, by omega⟩
  · rintro ⟨a, hin, hin', htop⟩
    omega

end AddressRange

namespace AddressMap

inductive Edit where
  | insert (base : Address) (length : UInt64) (node : NodeId)
  | migrate (base : Address) (node : NodeId)
  | remove (base : Address)
deriving DecidableEq

def edit (m : AddressMap) : Edit → AddressMap
  | .insert base length node =>
    match m.insertRange base length node with
    | .ok m' => m'
    | .error _ => m
  | .migrate base node =>
    match m.migrate base node with
    | .ok (_, m') => m'
    | .error _ => m
  | .remove base => (m.remove base).2

def editAll (m : AddressMap) (edits : List Edit) : AddressMap := edits.foldl edit m

theorem Reachable.edit {m : AddressMap} (hm : m.Reachable) (e : Edit) : (m.edit e).Reachable := by
  cases e with
  | insert base length node =>
      rw [AddressMap.edit]
      split
      · rename_i hok
        exact .insert hm hok
      · exact hm
  | migrate base node =>
      rw [AddressMap.edit]
      split
      · rename_i hok
        exact .migrate hm hok
      · exact hm
  | remove base => exact .remove base hm

theorem Reachable.editAll {m : AddressMap} (hm : m.Reachable) (edits : List Edit) :
    (m.editAll edits).Reachable := by
  induction edits generalizing m with
  | nil => exact hm
  | cons e edits ih => exact ih (hm.edit e)

/-! What each change does. -/

theorem insertRange_eq_ok_iff {m m' : AddressMap} {base : Address} {length : UInt64}
    {node : NodeId} :
    m.insertRange base length node = .ok m' ↔
      (0 < length ∧ ∀ r ∈ m.ranges, ¬ (base.toNat < r.stop ∧
        r.base.toNat < (AddressRange.mk base length node).stop)) ∧
      m' = m.insert base ⟨base, length, node⟩ := by
  have hrefused : (length == 0 || m.values.any fun r => base.toNat < r.stop &&
      r.base.toNat < (AddressRange.mk base length node).stop) = false ↔
      0 < length ∧ ∀ r ∈ m.ranges, ¬ (base.toNat < r.stop ∧
        r.base.toNat < (AddressRange.mk base length node).stop) := by
    rw [Bool.or_eq_false_iff, List.any_eq_false, beq_eq_false_iff_ne, UInt64.pos_iff_ne_zero]
    simp only [Bool.and_eq_true, decide_eq_true_eq]
    rfl
  rw [← hrefused]
  unfold insertRange
  dsimp only
  split
  · rename_i hany
    simp [hany]
  · rename_i hnone
    rw [Bool.not_eq_true] at hnone
    simp only [hnone, Except.ok.injEq, true_and]
    exact eq_comm

theorem exists_of_migrate_eq_ok {m m' : AddressMap} {base : Address} {node previous : NodeId}
    (h : m.migrate base node = .ok (previous, m')) :
    ∃ r, m.get? base = some r ∧ previous = r.node ∧ m' = m.insert base { r with node } := by
  unfold migrate at h
  split at h
  · rename_i r hr
    cases h
    exact ⟨r, hr, rfl, rfl⟩
  · cases h

section Ranges

variable {m m' : AddressMap} (hm : m.Sound)
include hm

theorem mem_ranges_of_insertRange {base : Address} {length : UInt64} {node : NodeId}
    (h : m.insertRange base length node = .ok m') (r : AddressRange) :
    r ∈ m'.ranges ↔ r = ⟨base, length, node⟩ ∨ (r ∈ m.ranges ∧ r.base ≠ base) := by
  obtain ⟨-, rfl⟩ := insertRange_eq_ok_iff.mp h
  exact hm.mem_values_insert_iff (v := ⟨base, length, node⟩)

theorem exists_mem_ranges_of_migrate {base : Address} {node previous : NodeId}
    (h : m.migrate base node = .ok (previous, m')) :
    ∃ r₀ ∈ m.ranges, r₀.base = base ∧ r₀.node = previous ∧
      ∀ r, r ∈ m'.ranges ↔ r = { r₀ with node } ∨ (r ∈ m.ranges ∧ r.base ≠ base) := by
  obtain ⟨r₀, hr₀, rfl, rfl⟩ := exists_of_migrate_eq_ok h
  obtain rfl := hm.base_eq base r₀ hr₀
  refine ⟨r₀, m.mem_values_iff.mpr ⟨r₀.base, hr₀⟩, rfl, rfl, fun r => ?_⟩
  exact hm.mem_values_insert_iff (v := { r₀ with node })

theorem mem_ranges_remove (base : Address) (r : AddressRange) :
    r ∈ (m.remove base).2.ranges ↔ r ∈ m.ranges ∧ r.base ≠ base :=
  hm.mem_values_erase_iff

end Ranges

theorem Reachable.length_pos {m : AddressMap} (hm : m.Reachable) :
    ∀ r ∈ m.ranges, 0 < r.length := by
  induction hm with
  | empty =>
      intro r hr
      cases hr
  | insert hm hok ih =>
      intro r hr
      rcases (mem_ranges_of_insertRange hm.sound hok r).mp hr with rfl | ⟨hr, -⟩
      · exact (insertRange_eq_ok_iff.mp hok).1.1
      · exact ih r hr
  | migrate hm hok ih =>
      obtain ⟨r₀, hr₀, -, -, hmem⟩ := exists_mem_ranges_of_migrate hm.sound hok
      intro r hr
      rcases (hmem r).mp hr with rfl | ⟨hr, -⟩
      · exact ih r₀ hr₀
      · exact ih r hr
  | remove base hm ih =>
      intro r hr
      exact ih r ((mem_ranges_remove hm.sound base r).mp hr).1

theorem Reachable.exists_insertRange_eq_ok_iff {m : AddressMap} (hm : m.Reachable)
    (base : Address) (length : UInt64) (node : NodeId) :
    (∃ m', m.insertRange base length node = .ok m') ↔
      0 < length ∧ ∀ r ∈ m.ranges, ∀ a, (AddressRange.mk base length node).Covers a →
        r.Covers a → a = lastAddress := by
  simp only [insertRange_eq_ok_iff, exists_and_left, exists_eq, and_true]
  refine and_congr_right fun hpos => forall₂_congr fun r hr => ?_
  have hoverlap := AddressRange.overlap_iff (r := ⟨base, length, node⟩) hpos (hm.length_pos r hr)
  change ¬ ((AddressRange.mk base length node).base.toNat < r.stop ∧ _) ↔ _
  rw [hoverlap]
  constructor
  · intro hnone a hin hin'
    exact Decidable.byContradiction fun hne => hnone ⟨a, hin, hin', hne⟩
  · rintro hlast ⟨a, hin, hin', hne⟩
    exact hne (hlast a hin hin')

/-- Only at the last address can a range be added where there is one. -/
theorem Reachable.eq_lastAddress_of_insertRange {m m' : AddressMap} (hm : m.Reachable)
    {length : UInt64} {node : NodeId} {r : AddressRange} (hr : r ∈ m.ranges)
    (h : m.insertRange r.base length node = .ok m') : r.base = lastAddress := by
  obtain ⟨hpos, hlast⟩ := (hm.exists_insertRange_eq_ok_iff r.base length node).mp ⟨m', h⟩
  have hrpos := hm.length_pos r hr
  rw [UInt64.lt_iff_toNat_lt, UInt64.toNat_zero] at hpos hrpos
  refine hlast r hr r.base ⟨Nat.le_refl _, ?_⟩ ⟨Nat.le_refl _, ?_⟩
  · exact Nat.lt_add_of_pos_right hpos
  · exact Nat.lt_add_of_pos_right hrpos

theorem Reachable.apart {m : AddressMap} (hm : m.Reachable) {r r' : AddressRange}
    (hr : r ∈ m.ranges) (hr' : r' ∈ m.ranges) (hne : r ≠ r') {a : Address} (hin : r.Covers a)
    (hin' : r'.Covers a) : a = lastAddress := by
  obtain ⟨k, hk⟩ := m.mem_values_iff.mp hr
  obtain ⟨k', hk'⟩ := m.mem_values_iff.mp hr'
  have hkeys : k ≠ k' := by
    rintro rfl
    exact hne (Option.some.inj (hk.symm.trans hk'))
  have hover := AddressRange.overlap_iff (hm.length_pos r hr) (hm.length_pos r' hr')
  refine Decidable.byContradiction fun hlast => ?_
  obtain ⟨hlt, hlt'⟩ := hover.mpr ⟨a, hin, hin', hlast⟩
  rcases hm.sound.apart k k' r r' hk hk' hkeys with hle | hle
  · exact absurd hlt' (Nat.not_lt.mpr hle)
  · exact absurd hlt (Nat.not_lt.mpr hle)

theorem Reachable.kept {m : AddressMap} (hm : m.Reachable) (e : Edit) {r : AddressRange}
    (hr : r ∈ m.ranges) : r ∈ (m.edit e).ranges ∨ e = .remove r.base ∨
      (∃ node, e = .migrate r.base node ∧ { r with node } ∈ (m.edit e).ranges) ∨
      ∃ length node, e = .insert r.base length node ∧ r.base = lastAddress := by
  cases e with
  | insert base length node =>
      rw [AddressMap.edit]
      split
      · rename_i m' hok
        by_cases hbase : r.base = base
        · subst hbase
          exact .inr (.inr (.inr ⟨length, node, rfl, hm.eq_lastAddress_of_insertRange hr hok⟩))
        · exact .inl ((mem_ranges_of_insertRange hm.sound hok r).mpr (.inr ⟨hr, hbase⟩))
      · exact .inl hr
  | migrate base node =>
      rw [AddressMap.edit]
      split
      · rename_i previous m' hok
        obtain ⟨r₀, hr₀, hbase₀, -, hmem⟩ := exists_mem_ranges_of_migrate hm.sound hok
        by_cases hbase : r.base = base
        · obtain rfl := hm.sound.eq_of_base_eq hr hr₀ (hbase.trans hbase₀.symm)
          exact .inr (.inr (.inl ⟨node, by rw [hbase₀], (hmem _).mpr (.inl rfl)⟩))
        · exact .inl ((hmem r).mpr (.inr ⟨hr, hbase⟩))
      · exact .inl hr
  | remove base =>
      by_cases hbase : r.base = base
      · exact .inr (.inl (by rw [hbase]))
      · exact .inl ((mem_ranges_remove hm.sound base r).mpr ⟨hr, hbase⟩)

theorem Reachable.origin {m : AddressMap} (hm : m.Reachable) (e : Edit) {r : AddressRange}
    (hr : r ∈ (m.edit e).ranges) : r ∈ m.ranges ∨ e = .insert r.base r.length r.node ∨
      ∃ node, { r with node } ∈ m.ranges ∧ e = .migrate r.base r.node := by
  cases e with
  | insert base length node =>
      rw [AddressMap.edit] at hr
      split at hr
      · rename_i m' hok
        rcases (mem_ranges_of_insertRange hm.sound hok r).mp hr with rfl | ⟨hr, -⟩
        · exact .inr (.inl rfl)
        · exact .inl hr
      · exact .inl hr
  | migrate base node =>
      rw [AddressMap.edit] at hr
      split at hr
      · rename_i previous m' hok
        obtain ⟨r₀, hr₀, rfl, -, hmem⟩ := exists_mem_ranges_of_migrate hm.sound hok
        rcases (hmem r).mp hr with rfl | ⟨hr, -⟩
        · exact .inr (.inr ⟨r₀.node, hr₀, rfl⟩)
        · exact .inl hr
      · exact .inl hr
  | remove base => exact .inl ((mem_ranges_remove hm.sound base r).mp hr).1

/-- What holds of the ranges of a map, and of what any further change does to them. -/
structure Consistent (m : AddressMap) : Prop where
  apart : ∀ r ∈ m.ranges, ∀ r' ∈ m.ranges, r ≠ r' →
    ∀ a, r.Covers a → r'.Covers a → a = lastAddress
  insert_ok_iff : ∀ base length node, (∃ m', m.insertRange base length node = .ok m') ↔
    0 < length ∧ ∀ r ∈ m.ranges, ∀ a, (AddressRange.mk base length node).Covers a →
      r.Covers a → a = lastAddress
  insert_ranges : ∀ base length node m', m.insertRange base length node = .ok m' →
    ∀ r, r ∈ m'.ranges ↔
      r = ⟨base, length, node⟩ ∨ (r ∈ m.ranges ∧ (r.base = base → base ≠ lastAddress))
  insert_failed : ∀ base length node e, m.insertRange base length node = .error e →
    m.edit (.insert base length node) = m
  migrate_failed : ∀ base node e, m.migrate base node = .error e → m.edit (.migrate base node) = m
  kept : ∀ e, ∀ r ∈ m.ranges, r ∈ (m.edit e).ranges ∨ e = .remove r.base ∨
    (∃ node, e = .migrate r.base node ∧ { r with node } ∈ (m.edit e).ranges) ∨
    ∃ length node, e = .insert r.base length node ∧ r.base = lastAddress
  origin : ∀ e, ∀ r ∈ (m.edit e).ranges, r ∈ m.ranges ∨ e = .insert r.base r.length r.node ∨
    ∃ node, { r with node } ∈ m.ranges ∧ e = .migrate r.base r.node

theorem consistent_editAll (edits : List Edit) : Consistent (AddressMap.editAll .empty edits) := by
  have hm : (AddressMap.editAll .empty edits).Reachable := Reachable.empty.editAll edits
  constructor
  case apart => exact fun r hr r' hr' hne a hin hin' => hm.apart hr hr' hne hin hin'
  case insert_ok_iff => exact hm.exists_insertRange_eq_ok_iff
  case insert_ranges =>
    intro base length node m' hok r
    rw [mem_ranges_of_insertRange hm.sound hok r]
    refine or_congr_right (and_congr_right fun hr => ⟨fun hne hbase => absurd hbase hne, ?_⟩)
    rintro hlast rfl
    exact hlast rfl (hm.eq_lastAddress_of_insertRange hr hok)
  case insert_failed =>
    intro base length node e hfailed
    rw [AddressMap.edit, hfailed]
  case migrate_failed =>
    intro base node e hfailed
    rw [AddressMap.edit, hfailed]
  case kept => exact fun e r hr => hm.kept e hr
  case origin => exact fun e r hr => hm.origin e hr

theorem insertRange_lastAddress :
    (AddressMap.editAll .empty [.insert lastAddress 1 1]).insertRange lastAddress 1 2 =
      .ok (OrderedMap.empty.insert lastAddress ⟨lastAddress, 1, 2⟩) := rfl

/-- A range at the last address is taken in where there is one, which is lost. -/
theorem not_forall_insertRange_disjoint_and_kept :
    (¬ ∀ (edits : List Edit) (base : Address) (length : UInt64) (node : NodeId),
      (∃ m', (AddressMap.editAll .empty edits).insertRange base length node = .ok m') ↔
        0 < length ∧ ∀ r ∈ (AddressMap.editAll .empty edits).ranges,
          ∀ a, (AddressRange.mk base length node).Covers a → ¬ r.Covers a) ∧
      ¬ ∀ (edits : List Edit) (base : Address) (length : UInt64) (node : NodeId) (m' : AddressMap),
        (AddressMap.editAll .empty edits).insertRange base length node = .ok m' →
          ∀ r ∈ (AddressMap.editAll .empty edits).ranges, r ∈ m'.ranges := by
  have hthere : (AddressRange.mk lastAddress 1 1) ∈
      (AddressMap.editAll .empty [.insert lastAddress 1 1]).ranges := by decide
  constructor
  · intro h
    obtain ⟨-, hdisjoint⟩ :=
      (h [.insert lastAddress 1 1] lastAddress 1 2).mp ⟨_, insertRange_lastAddress⟩
    exact hdisjoint _ hthere lastAddress (by decide) (by decide)
  · intro h
    have hkept := h [.insert lastAddress 1 1] lastAddress 1 2 _ insertRange_lastAddress _ hthere
    revert hkept
    decide

end AddressMap

end NumaFabric
