import NumaFabric.Memory.AddressSpace
import NumaFabric.Proofs.Store.Separated

namespace NumaFabric.AddressSpace

inductive Reachable : AddressSpace → Prop
  | empty : Reachable .empty
  | map {m m' : AddressSpace} {base : Address} {size : UInt64} {region : Region} :
      Reachable m → m.map base size = .ok (region, m') → Reachable m'
  | unmap {m : AddressSpace} (base : Address) : Reachable m → Reachable (m.unmap base).2
  | write {m m' : AddressSpace} {a : Address} {data : List UInt8} :
      Reachable m → m.write a data = .ok m' → Reachable m'
  | fill {m m' : AddressSpace} {a : Address} {length : Nat} {value : UInt8} :
      Reachable m → m.fill a length value = .ok m' → Reachable m'
  | hold {m m' : AddressSpace} {a base : Address} {length : Nat} :
      Reachable m → m.hold a length = .ok (base, m') → Reachable m'
  | release {m : AddressSpace} (base : Address) : Reachable m → Reachable (m.release base)

def ofRegion (region : Region) : AddressSpace :=
  OrderedMap.empty.insert region.base (HostRegion.zeroed region)

theorem reachable_ofRegion {region : Region} (hpos : region.size ≠ 0)
    (hmax : region.size.toNat ≤ maxSize) : Reachable (ofRegion region) := by
  have hmap : AddressSpace.map .empty region.base region.size =
      .ok (region, ofRegion region) := by
    simp only [AddressSpace.map, OrderedMap.values, OrderedMap.empty, List.map_nil, List.any_nil,
      Bool.false_or, beq_iff_eq, if_neg hpos, if_neg (Nat.not_lt.mpr hmax)]
    rfl
  exact .map .empty hmap

abbrev Sound (m : AddressSpace) : Prop :=
  OrderedMap.Separated (fun r : HostRegion => r.region.base) (fun r => r.region.stop) m

def byte? (m : AddressSpace) (a : Address) : Option UInt8 :=
  (m.floor? a).bind fun e => e.2.bytes[e.2.offset a]?

/-- The state `after` is the state `before` with `data` put at `a`, and nothing else changed. -/
structure Wrote (before after : AddressSpace) (a : Address) (data : List UInt8) : Prop where
  inside : ∃ region ∈ before.regions, region.Contains a data.length
  regions : after.regions = before.regions
  held : after.values.map HostRegion.held = before.values.map HostRegion.held
  bytes : ∀ x : Address, after.byte? x =
    if a.toNat ≤ x.toNat ∧ x.toNat < a.toNat + data.length then data[x.toNat - a.toNat]?
    else before.byte? x

theorem regionFor?_eq_some {m : AddressSpace} {a : Address} {r : HostRegion}
    (h : m.regionFor? a = some r) :
    ∃ k, m.floor? a = some (k, r) ∧ a.toNat < r.region.stop := by
  simp only [regionFor?, Option.filter_eq_some_iff, Option.map_eq_some_iff,
    decide_eq_true_eq] at h
  obtain ⟨⟨⟨k, r'⟩, hfloor, rfl⟩, hstop⟩ := h
  exact ⟨k, hfloor, hstop⟩

theorem find_eq_ok_iff {m : AddressSpace} {a : Address} {r : HostRegion} :
    m.find a = .ok r ↔ m.regionFor? a = some r := by
  unfold find
  split <;> simp_all

theorem write_eq_ok_iff {m m' : AddressSpace} {a : Address} {data : List UInt8} :
    m.write a data = .ok m' ↔
      ∃ r, m.regionFor? a = some r ∧ r.held = false ∧
        ∃ h : r.region.Contains a data.length,
          m' = m.insert r.region.base (r.overwrite a data h) := by
  constructor
  · intro hok
    cases hf : m.find a with
    | error e => simp [write, hf, bind, Except.bind] at hok
    | ok r =>
        simp only [write, hf, bind, Except.bind, pure, Except.pure, throw, throwThe,
          MonadExceptOf.throw] at hok
        split at hok
        · rename_i hin
          split at hok
          · cases hok
          · rename_i hheld
            cases hok
            exact ⟨r, find_eq_ok_iff.mp hf, Bool.eq_false_iff.mpr hheld, hin, rfl⟩
        · cases hok
  · rintro ⟨r, hr, hheld, hin, rfl⟩
    simp [write, find_eq_ok_iff.mpr hr, bind, Except.bind, pure, Except.pure, hin, hheld]

theorem fill_eq_write (m : AddressSpace) (a : Address) (length : Nat) (value : UInt8) :
    m.fill a length value = m.write a (List.replicate length value) := by
  cases hf : m.find a with
  | error e => simp [fill, write, hf, bind, Except.bind]
  | ok r =>
      simp only [fill, hf, bind, Except.bind]
      cases hg : r.grant a length with
      | ok u => rfl
      | error e =>
          -- the range is refused for the reason for which the write is
          simp only [write, hf, bind, Except.bind, List.length_replicate]
          unfold HostRegion.grant at hg
          split at hg
          · rename_i hin
            split at hg
            · rename_i hheld
              cases hg
              rw [dif_pos hin, if_pos hheld]
              rfl
            · cases hg
          · rename_i hout
            cases hg
            rw [dif_neg hout]
            rfl

theorem write_of_fill {m m' : AddressSpace} {a : Address} {length : Nat} {value : UInt8}
    (h : m.fill a length value = .ok m') : m.write a (List.replicate length value) = .ok m' :=
  (m.fill_eq_write a length value).symm.trans h

theorem sound_of_map {m m' : AddressSpace} (hm : m.Sound) {base : Address} {size : UInt64}
    {region : Region} (h : m.map base size = .ok (region, m')) : m'.Sound := by
  unfold map at h
  dsimp only at h
  split at h
  · cases h
  · rename_i hfree
    split at h
    · cases h
    · cases h
      simp only [Bool.or_eq_true, not_or, Bool.not_eq_true] at hfree
      exact hm.insert_of_any_eq_false (HostRegion.zeroed ⟨base, size⟩) hfree.1

theorem get?_base_of_regionFor? {m : AddressSpace} (hm : m.Sound) {a : Address} {r : HostRegion}
    (h : m.regionFor? a = some r) : m.get? r.region.base = some r := by
  obtain ⟨k, hfloor, -⟩ := regionFor?_eq_some h
  obtain ⟨hget, -, -⟩ := m.floor?_word_eq_some_iff.mp hfloor
  rw [hm.base_eq k r hget]
  exact hget

theorem sound_of_write {m m' : AddressSpace} (hm : m.Sound) {a : Address} {data : List UInt8}
    (h : m.write a data = .ok m') : m'.Sound := by
  obtain ⟨r, hr, -, hin, rfl⟩ := write_eq_ok_iff.mp h
  exact hm.replace (get?_base_of_regionFor? hm hr) rfl rfl

theorem exists_of_hold_eq_ok {m m' : AddressSpace} {a base : Address} {length : Nat}
    (h : m.hold a length = .ok (base, m')) :
    ∃ r, m.regionFor? a = some r ∧ m' = m.insert r.region.base { r with held := true } := by
  cases hf : m.find a with
  | error e => simp [hold, hf, bind, Except.bind] at h
  | ok r =>
      cases hg : r.grant a length with
      | error e => simp [hold, hf, hg, bind, Except.bind] at h
      | ok u =>
          simp only [hold, hf, hg, bind, Except.bind, pure, Except.pure, Except.ok.injEq,
            Prod.mk.injEq] at h
          exact ⟨r, find_eq_ok_iff.mp hf, h.2.symm⟩

theorem sound_of_hold {m m' : AddressSpace} (hm : m.Sound) {a base : Address} {length : Nat}
    (h : m.hold a length = .ok (base, m')) : m'.Sound := by
  obtain ⟨r, hr, rfl⟩ := exists_of_hold_eq_ok h
  exact hm.replace (get?_base_of_regionFor? hm hr) rfl rfl

theorem Reachable.sound {m : AddressSpace} (h : m.Reachable) : m.Sound := by
  induction h with
  | empty => exact OrderedMap.separated_empty
  | map _ hok ih => exact sound_of_map ih hok
  | unmap base _ ih => exact ih.erase base
  | write _ hok ih => exact sound_of_write ih hok
  | fill _ hok ih => exact sound_of_write ih (write_of_fill hok)
  | hold _ hok ih => exact sound_of_hold ih hok
  | release base _ ih =>
      refine ih.mapValues (fun k r => ?_) (fun k r => ?_)
      · split <;> rfl
      · split <;> rfl

theorem getElem?_bytes_overwrite (r : HostRegion) {a : Address} {data : List UInt8}
    (h : r.region.Contains a data.length) (i : Nat) :
    (r.overwrite a data h).bytes[i]? =
      if r.offset a ≤ i ∧ i < r.offset a + data.length then data[i - r.offset a]?
      else r.bytes[i]? := by
  have hfit : r.offset a + data.length ≤ r.bytes.length := by
    rw [r.length_bytes]
    exact h.offset_add_le
  have hfirst : (r.bytes.take (r.offset a)).length = r.offset a := by
    rw [List.length_take]
    omega
  have hdata : (r.bytes.take (r.offset a) ++ data).length = r.offset a + data.length := by
    rw [List.length_append, hfirst]
  change (r.bytes.take (r.offset a) ++ data ++ r.bytes.drop (r.offset a + data.length))[i]? = _
  by_cases hlow : i < r.offset a
  · rw [if_neg (by omega), List.getElem?_append_left (by omega),
      List.getElem?_append_left (by omega), List.getElem?_take_of_lt hlow]
  · by_cases hhigh : i < r.offset a + data.length
    · rw [if_pos ⟨by omega, hhigh⟩, List.getElem?_append_left (by omega),
        List.getElem?_append_right (by omega), hfirst]
    · rw [if_neg (by omega), List.getElem?_append_right (by omega), hdata, List.getElem?_drop]
      congr 1
      omega

theorem wrote_of_write {m m' : AddressSpace} (hm : m.Sound) {a : Address} {data : List UInt8}
    (h : m.write a data = .ok m') : Wrote m m' a data := by
  obtain ⟨r, hr, hheld, hin, rfl⟩ := write_eq_ok_iff.mp h
  have hget := get?_base_of_regionFor? hm hr
  refine ⟨⟨r.region, ?_, hin⟩, m.map_values_insert_of_get? hget _ rfl,
    m.map_values_insert_of_get? hget _ rfl, fun x => ?_⟩
  · exact List.mem_map.mpr ⟨r, m.mem_values_iff.mpr ⟨_, hget⟩, rfl⟩
  · have hbase := hin.1
    have hstop := hin.2
    -- an address that is written is found in the region that is written
    have hfound (hx : a.toNat ≤ x.toNat ∧ x.toNat < a.toNat + data.length) :
        m.floor? x = some (r.region.base, r) :=
      hm.floor?_eq_some (fun w => le_rangeEnd w.region.base w.region.size) hget
        (Nat.le_trans hbase hx.1) (Nat.lt_of_lt_of_le hx.2 hstop)
    have hafter : (OrderedMap.insert m r.region.base (r.overwrite a data hin)).floor? x =
        (m.floor? x).map fun e =>
          if e.1 = r.region.base then (r.region.base, r.overwrite a data hin) else e :=
      m.floor?_insert_of_get? hget _ x
    cases hfloor : m.floor? x with
    | none =>
        have hout : ¬ (a.toNat ≤ x.toNat ∧ x.toNat < a.toNat + data.length) := by
          intro hx
          rw [hfound hx] at hfloor
          cases hfloor
        rw [if_neg hout, byte?, byte?, hafter, hfloor]
        rfl
    | some e =>
        obtain ⟨k, w⟩ := e
        by_cases hk : k = r.region.base
        · subst hk
          obtain ⟨hw, hle, -⟩ := m.floor?_word_eq_some_iff.mp hfloor
          obtain rfl : r = w := Option.some.inj (hget.symm.trans hw)
          have hcond : (r.offset a ≤ r.offset x ∧ r.offset x < r.offset a + data.length) ↔
              (a.toNat ≤ x.toNat ∧ x.toNat < a.toNat + data.length) := by
            simp only [HostRegion.offset]
            omega
          have hindex : r.offset x - r.offset a = x.toNat - a.toNat := by
            simp only [HostRegion.offset]
            omega
          rw [byte?, byte?, hafter, hfloor, Option.map_some, if_pos rfl]
          change (r.overwrite a data hin).bytes[r.offset x]? = _
          rw [getElem?_bytes_overwrite, hindex]
          simp only [hcond]
          rfl
        · have hout : ¬ (a.toNat ≤ x.toNat ∧ x.toNat < a.toNat + data.length) := by
            intro hx
            rw [hfound hx] at hfloor
            cases hfloor
            exact hk rfl
          rw [if_neg hout, byte?, byte?, hafter, hfloor, Option.map_some, if_neg hk]

end NumaFabric.AddressSpace
