import NumaFabric.Numa.AddressMap
import NumaFabric.Proofs.Store.Separated

namespace NumaFabric.AddressMap

inductive Reachable : AddressMap → Prop
  | empty : Reachable .empty
  | insert {m m' : AddressMap} {base : Address} {length : UInt64} {node : NodeId} :
      Reachable m → m.insertRange base length node = .ok m' → Reachable m'
  | migrate {m m' : AddressMap} {base : Address} {node previous : NodeId} :
      Reachable m → m.migrate base node = .ok (previous, m') → Reachable m'
  | remove {m : AddressMap} (base : Address) : Reachable m → Reachable (m.remove base).2

abbrev Sound (m : AddressMap) : Prop :=
  OrderedMap.Separated AddressRange.base AddressRange.stop m

theorem sound_of_insertRange {m m' : AddressMap} (hm : m.Sound) {base : Address} {length : UInt64}
    {node : NodeId} (h : m.insertRange base length node = .ok m') : m'.Sound := by
  unfold insertRange at h
  dsimp only at h
  split at h
  · cases h
  · rename_i hfree
    cases h
    simp only [Bool.or_eq_true, not_or, Bool.not_eq_true] at hfree
    exact hm.insert_of_any_eq_false ⟨base, length, node⟩ hfree.2

theorem sound_of_migrate {m m' : AddressMap} (hm : m.Sound) {base : Address}
    {node previous : NodeId} (h : m.migrate base node = .ok (previous, m')) : m'.Sound := by
  unfold migrate at h
  split at h
  · rename_i r hr
    cases h
    exact hm.replace hr rfl rfl
  · cases h

theorem Reachable.sound {m : AddressMap} (h : m.Reachable) : m.Sound := by
  induction h with
  | empty => exact OrderedMap.separated_empty
  | insert _ hok ih => exact sound_of_insertRange ih hok
  | migrate _ hok ih => exact sound_of_migrate ih hok
  | remove base _ ih => exact ih.erase base

theorem exists_range_of_owner? {m : AddressMap} (hm : m.Sound) {a : Address} {n : NodeId}
    (h : m.owner? a = some n) :
    ∃ r ∈ m.ranges, r.node = n ∧ r.base.toNat ≤ a.toNat ∧ a.toNat < r.stop := by
  simp only [owner?, Option.map_eq_some_iff, Option.filter_eq_some_iff, decide_eq_true_eq] at h
  obtain ⟨r, ⟨⟨⟨k, r'⟩, hfloor, rfl⟩, hstop⟩, rfl⟩ := h
  obtain ⟨hget, hle, -⟩ := m.floor?_word_eq_some_iff.mp hfloor
  refine ⟨r', m.mem_values_iff.mpr ⟨k, hget⟩, rfl, ?_, hstop⟩
  rw [hm.base_eq k r' hget]
  exact hle

theorem owner?_of_mem_ranges {m : AddressMap} (hm : m.Sound) {r : AddressRange}
    (hr : r ∈ m.ranges) {a : Address} (hbase : r.base.toNat ≤ a.toNat) (hstop : a.toNat < r.stop) :
    m.owner? a = some r.node := by
  obtain ⟨k, hget⟩ := m.mem_values_iff.mp hr
  have hfloor : m.floor? a = some (k, r) :=
    hm.floor?_eq_some (fun w => le_rangeEnd w.base w.length) hget hbase hstop
  rw [owner?, hfloor, Option.map_some, Option.filter_some, if_pos (decide_eq_true hstop),
    Option.map_some]

end NumaFabric.AddressMap
