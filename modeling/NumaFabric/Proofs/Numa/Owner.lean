import NumaFabric.Proofs.Numa.Edits

namespace NumaFabric

namespace AddressRange

/-- The address is one of the range, and not the last one of the space. -/
def Holds (r : AddressRange) (a : Address) : Prop :=
  r.base.toNat ≤ a.toNat ∧ a.toNat < min (r.base.toNat + r.length.toNat) (UInt64.size - 1)

instance (r : AddressRange) (a : Address) : Decidable (r.Holds a) :=
  inferInstanceAs (Decidable (_ ∧ _))

theorem holds_iff_lt_stop (r : AddressRange) (a : Address) :
    r.Holds a ↔ r.base.toNat ≤ a.toNat ∧ a.toNat < r.stop := Iff.rfl

theorem holds_iff_covers (r : AddressRange) (a : Address) :
    r.Holds a ↔ r.Covers a ∧ a ≠ lastAddress := by
  rw [holds_iff_lt_stop, lt_stop_iff, Covers, Ne, eq_lastAddress_iff, Nat.not_le]
  exact and_assoc.symm

theorem base_ne_lastAddress_of_holds {r : AddressRange} {a : Address} (h : r.Holds a) :
    r.base ≠ lastAddress := by
  obtain ⟨⟨hbase, -⟩, hlast⟩ := (r.holds_iff_covers a).mp h
  intro heq
  apply hlast
  rw [eq_lastAddress_iff, ← toNat_lastAddress, ← heq]
  exact hbase

end AddressRange

namespace AddressMap

theorem ofRanges_induction {P : List AddressRange → AddressMap → Prop} (hempty : P [] .empty)
    (hinsert : ∀ (ranges : List AddressRange) (r : AddressRange) (m m' : AddressMap), P ranges m →
      m.insertRange r.base r.length r.node = .ok m' → P (ranges ++ [r]) m')
    {ranges : List AddressRange} {m : AddressMap} (h : ofRanges ranges = .ok m) : P ranges m := by
  induction ranges using List.reverseRecOn generalizing m with
  | nil =>
      cases h
      exact hempty
  | append_singleton ranges r ih =>
      simp only [ofRanges, List.foldlM_append, List.foldlM_cons, List.foldlM_nil, bind_pure] at h
      change (ofRanges ranges >>= fun m => m.insertRange r.base r.length r.node) = .ok m at h
      cases hbefore : ofRanges ranges with
      | error e =>
          rw [hbefore] at h
          cases h
      | ok m₀ =>
          rw [hbefore] at h
          exact hinsert ranges r m₀ m (ih hbefore) h

/-- The map holds ranges of the list, all but those at the last address for sure. -/
structure MadeFrom (ranges : List AddressRange) (m : AddressMap) : Prop where
  reachable : m.Reachable
  only : ∀ r ∈ m.ranges, r ∈ ranges
  kept : ∀ r ∈ ranges, r.base ≠ lastAddress → r ∈ m.ranges

theorem Reachable.kept_insertRange {m m' : AddressMap} (hm : m.Reachable)
    {base : Address} {length : UInt64} {node : NodeId}
    (h : m.insertRange base length node = .ok m') {r : AddressRange} (hr : r ∈ m.ranges)
    (hlast : r.base ≠ lastAddress) : r ∈ m'.ranges := by
  apply (mem_ranges_of_insertRange hm.sound h r).mpr
  refine .inr ⟨hr, ?_⟩
  rintro rfl
  exact hlast (hm.eq_lastAddress_of_insertRange hr h)

theorem madeFrom_of_ofRanges {ranges : List AddressRange} {m : AddressMap}
    (h : ofRanges ranges = .ok m) : MadeFrom ranges m := by
  apply ofRanges_induction (P := MadeFrom) _ _ h
  · refine ⟨.empty, ?_, ?_⟩
    · intro r hr
      cases hr
    · intro r hr
      cases hr
  · intro ranges r m m' hm hok
    have hmem := mem_ranges_of_insertRange hm.reachable.sound hok
    refine ⟨.insert hm.reachable hok, ?_, ?_⟩
    · intro r' hr'
      rcases (hmem r').mp hr' with rfl | ⟨hold, -⟩
      · exact List.mem_append_right ranges (List.mem_singleton_self _)
      · exact List.mem_append_left [r] (hm.only r' hold)
    · intro r' hr' hlast
      rcases List.mem_append.mp hr' with hold | hnew
      · exact hm.reachable.kept_insertRange hok (hm.kept r' hold hlast) hlast
      · obtain rfl := List.mem_singleton.mp hnew
        exact (hmem r').mpr (.inl rfl)

section Sound

variable {m : AddressMap} (hm : m.Sound)
include hm

theorem owner?_eq_some_iff (a : Address) (n : NodeId) :
    m.owner? a = some n ↔ ∃ r ∈ m.ranges, r.node = n ∧ r.Holds a := by
  constructor
  · intro howner
    exact exists_range_of_owner? hm howner
  · rintro ⟨r, hr, rfl, hbase, hstop⟩
    exact owner?_of_mem_ranges hm hr hbase hstop

theorem owner?_eq_none_iff (a : Address) :
    m.owner? a = none ↔ ∀ r ∈ m.ranges, ¬ r.Holds a := by
  rw [Option.eq_none_iff_forall_ne_some]
  constructor
  · intro hnone r hr hin
    exact hnone r.node ((owner?_eq_some_iff hm a r.node).mpr ⟨r, hr, rfl, hin⟩)
  · intro hfree n howner
    obtain ⟨r, hr, -, hin⟩ := (owner?_eq_some_iff hm a n).mp howner
    exact hfree r hr hin

theorem pairwise_ranges (a : Address) :
    m.ranges.Pairwise fun r r' => ¬ (r.Holds a ∧ r'.Holds a) := by
  apply List.pairwise_map.mpr
  refine m.increasing.imp_of_mem ?_
  rintro ⟨k, r⟩ ⟨k', r'⟩ hin hin' hlt ⟨hr, hr'⟩
  have hne : k ≠ k' := by
    rintro rfl
    simp [Std.ReflCmp.compare_self] at hlt
  rw [AddressRange.holds_iff_lt_stop] at hr hr'
  rcases hm.apart k k' r r' (m.mem_toList_iff.mp hin) (m.mem_toList_iff.mp hin') hne with
    hle | hle
  · exact absurd (Nat.lt_of_lt_of_le hr.2 hle) (Nat.not_lt.mpr hr'.1)
  · exact absurd (Nat.lt_of_lt_of_le hr'.2 hle) (Nat.not_lt.mpr hr.1)

theorem map_node_filter_holds (a : Address) :
    (m.ranges.filter fun r => r.Holds a).map (·.node) = (m.owner? a).toList := by
  have hpairs := (pairwise_ranges hm a).filter fun r => decide (r.Holds a)
  have hholds : ∀ r ∈ m.ranges.filter fun r => r.Holds a, r ∈ m.ranges ∧ r.Holds a := by
    intro r hr
    simpa using hr
  match hfound : m.ranges.filter fun r => r.Holds a with
  | [] =>
      have hnone : m.owner? a = none := by
        apply (owner?_eq_none_iff hm a).mpr
        intro r hr
        simpa using List.filter_eq_nil_iff.mp hfound r hr
      rw [hnone, hfound]
      rfl
  | [r] =>
      obtain ⟨hr, hin⟩ := hholds r (by simp [hfound])
      rw [(owner?_eq_some_iff hm a r.node).mpr ⟨r, hr, rfl, hin⟩, hfound]
      rfl
  | r :: r' :: rest =>
      rw [hfound] at hpairs hholds
      have hboth := List.rel_of_pairwise_cons hpairs (List.mem_cons_self (a := r'))
      exact absurd ⟨(hholds r (by simp)).2, (hholds r' (by simp)).2⟩ hboth

end Sound

/-- The lookup of an address finds what a scan of all ranges finds, and no other. -/
structure OwnerIsExact (m : AddressMap) (a : Address) : Prop where
  owner_iff : ∀ n, m.owner? a = some n ↔ ∃ r ∈ m.ranges, r.node = n ∧ r.Holds a
  unique : ∀ r ∈ m.ranges, ∀ r' ∈ m.ranges, r.Holds a → r'.Holds a → r = r'
  scan : (m.ranges.filter fun r => r.Holds a).map (·.node) = (m.owner? a).toList

theorem ownerIsExact_editAll {ranges : List AddressRange} {m : AddressMap}
    (h : ofRanges ranges = .ok m) (edits : List Edit) (a : Address) :
    OwnerIsExact (m.editAll edits) a := by
  have hm : (m.editAll edits).Reachable := (madeFrom_of_ofRanges h).reachable.editAll edits
  constructor
  case owner_iff => exact owner?_eq_some_iff hm.sound a
  case unique =>
    intro r hr r' hr' hin hin'
    rw [AddressRange.holds_iff_covers] at hin hin'
    by_contra hne
    exact hin.2 (hm.apart hr hr' hne hin.1 hin'.1)
  case scan => exact map_node_filter_holds hm.sound a

theorem ownerIsExact_editAll_besideEachOther :
    let ranges : List AddressRange := [⟨0x1000, 0x1000, 0⟩, ⟨0x2000, 0x100, 1⟩]
    let edits : List Edit := [.insert lastAddress 1 3, .insert lastAddress 9 4, .migrate 0x2000 2,
      .insert 0x2080 1 5, .remove 0x1000, .insert 0x1800 0x800 6]
    ∃ m, ofRanges ranges = .ok m ∧ OwnerIsExact (m.editAll edits) 0x2080 ∧
      (m.editAll edits).owner? 0x2080 = some 2 ∧ (m.editAll edits).owner? 0x1fff = some 6 ∧
      (m.editAll edits).owner? 0x1000 = none ∧ (m.editAll edits).owner? lastAddress = none := by
  intro ranges edits
  have hstart : ofRanges ranges = .ok _ := rfl
  exact ⟨_, hstart, ownerIsExact_editAll hstart edits 0x2080, by decide, by decide, by decide,
    by decide⟩

end AddressMap

end NumaFabric
