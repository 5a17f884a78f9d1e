import NumaFabric.Proofs.Memory.LastWrite

namespace NumaFabric

/-- The `length` addresses from `a` on, one at least, are among those that the region was mapped for. -/
def Region.Spans (r : Region) (a : Address) (length : Nat) : Prop :=
  0 < length ∧ r.base.toNat ≤ a.toNat ∧
    a.toNat + length ≤ min (r.base.toNat + r.size.toNat) UInt64.size

instance (r : Region) (a : Address) (length : Nat) : Decidable (r.Spans a length) :=
  inferInstanceAs (Decidable (_ ∧ _))

theorem Region.Spans.contains {r : Region} {a : Address} {length : Nat} (h : r.Spans a length)
    (hlast : a.toNat + length < UInt64.size) : r.Contains a length ∧ r.Covers a := by
  obtain ⟨hpos, hbase, hstop⟩ := h
  have hle : a.toNat + length ≤ r.stop := by
    simp only [stop, rangeEnd, topAddress]
    omega
  exact ⟨⟨hbase, hle⟩, hbase, by omega⟩

namespace AddressSpace

inductive Action where
  | call (call : Call)
  | hold (a : Address) (length : Nat)
  | release (base : Address)
deriving DecidableEq

def act (m : AddressSpace) : Action → AddressSpace
  | .call call => (m.perform call).2
  | .hold a length =>
    match m.hold a length with
    | .ok (_, m') => m'
    | .error _ => m
  | .release base => m.release base

def actAll (m : AddressSpace) (actions : List Action) : AddressSpace := actions.foldl act m

def isHeld (m : AddressSpace) (base : Address) : Bool := (m.get? base).any (·.held)

def IsMapped (m : AddressSpace) (region : Region) : Prop :=
  ∃ r, m.get? region.base = some r ∧ r.region = region

theorem Reachable.act {m : AddressSpace} (hm : m.Reachable) (act : Action) : (m.act act).Reachable := by
  cases act with
  | call call =>
      rw [AddressSpace.act]
      obtain ⟨hsame, -⟩ | ⟨_, _, _, -, hok, hp⟩ | ⟨base, -, hp⟩ | ⟨_, _, _, -, hok, hp⟩ :=
        m.perform_cases call
      · rw [hsame]
        exact hm
      · rw [hp]
        exact .map hm hok
      · rw [hp]
        exact .unmap base hm
      · rw [hp]
        exact .write hm hok
  | hold a length =>
      rw [AddressSpace.act]
      split
      · rename_i hok
        exact .hold hm hok
      · exact hm
  | release base => exact .release base hm

theorem Reachable.actAll {m : AddressSpace} (hm : m.Reachable) (actions : List Action) :
    (m.actAll actions).Reachable := by
  induction actions generalizing m with
  | nil => exact hm
  | cons act actions ih => exact ih (hm.act act)

/-! A mapped region stays until it is unmapped. -/

theorem isMapped_of_map {m m' : AddressSpace} {base : Address} {size : UInt64} {region : Region}
    (h : m.map base size = .ok (region, m')) : m'.IsMapped region := by
  obtain ⟨rfl, rfl, -, -⟩ := exists_of_map_eq_ok h
  exact ⟨_, OrderedMap.get?_insert_self .., rfl⟩

theorem IsMapped.insert {m : AddressSpace} {region : Region} (h : m.IsMapped region)
    {base : Address} {r : HostRegion} (hr : base = region.base → r.region = region) :
    IsMapped (m.insert base r) region := by
  by_cases hbase : base = region.base
  · subst hbase
    exact ⟨r, OrderedMap.get?_insert_self .., hr rfl⟩
  · obtain ⟨r', hget, hregion⟩ := h
    exact ⟨r', (m.get?_insert_of_ne r hbase).trans hget, hregion⟩

theorem IsMapped.replace {m : AddressSpace} {region : Region} (h : m.IsMapped region)
    (hm : m.Sound) {a : Address} {r r' : HostRegion} (hr : m.regionFor? a = some r)
    (hsame : r'.region = r.region) : IsMapped (m.insert r.region.base r') region := by
  apply h.insert
  intro hbase
  obtain ⟨r₀, hget, hregion⟩ := h
  have hget' := get?_base_of_regionFor? hm hr
  rw [hbase, hget] at hget'
  rw [hsame, ← Option.some.inj hget', hregion]

theorem IsMapped.act {m : AddressSpace} {region : Region} (h : m.IsMapped region) (hm : m.Sound)
    (hne : region.base.toNat < region.stop) {act : Action} (hact : act ≠ .call (.unmap region.base)) :
    (m.act act).IsMapped region := by
  cases act with
  | call call =>
      rw [AddressSpace.act]
      obtain ⟨hsame, -⟩ | ⟨base, size, m', -, hok, hp⟩ | ⟨base, rfl, hp⟩ | ⟨a, data, m', -, hok, hp⟩ :=
        m.perform_cases call
      · rw [hsame]
        exact h
      · rw [hp]
        obtain ⟨-, rfl, hsize, hfree⟩ := exists_of_map_eq_ok hok
        apply h.insert
        rintro rfl
        -- there is no room for another region where this one is
        obtain ⟨r, hget, rfl⟩ := h
        have hpos : 0 < size.toNat := UInt64.lt_iff_toNat_lt.mp (UInt64.pos_iff_ne_zero.mpr hsize)
        refine absurd ⟨hne, ?_⟩ (hfree r (m.mem_values_iff.mpr ⟨_, hget⟩))
        simp only [Region.stop, rangeEnd] at hne ⊢
        omega
      · rw [hp]
        obtain ⟨r, hget, hregion⟩ := h
        have hbase : base ≠ region.base := by
          rintro rfl
          exact hact rfl
        exact ⟨r, (m.get?_erase_of_ne hbase).trans hget, hregion⟩
      · rw [hp]
        obtain ⟨r, hr, -, hin, rfl⟩ := write_eq_ok_iff.mp hok
        exact h.replace hm hr rfl
  | hold a length =>
      rw [AddressSpace.act]
      split
      · rename_i hok
        obtain ⟨r, hr, rfl⟩ := exists_of_hold_eq_ok hok
        exact h.replace hm hr rfl
      · exact h
  | release base =>
      obtain ⟨r, hget, hregion⟩ := h
      refine ⟨_, by rw [AddressSpace.act, release, OrderedMap.get?_mapValues, hget]; rfl, ?_⟩
      split
      · exact hregion
      · exact hregion

theorem IsMapped.actAll {m : AddressSpace} {region : Region} (h : m.IsMapped region)
    (hm : m.Reachable) (hne : region.base.toNat < region.stop) {actions : List Action}
    (hkept : .call (.unmap region.base) ∉ actions) : (m.actAll actions).IsMapped region := by
  induction actions generalizing m with
  | nil => exact h
  | cons act actions ih =>
      rw [List.mem_cons, not_or] at hkept
      exact ih (h.act hm.sound hne (Ne.symm hkept.1)) (hm.act act) hkept.2

/-! What is written is read. -/

theorem read_of_write {m m' : AddressSpace} (hm : m.Sound) {a : Address} {data : List UInt8}
    (h : m.write a data = .ok m') : m'.read a data.length = .ok data := by
  have hm' := sound_of_write hm h
  obtain ⟨r, hr, -, hin, rfl⟩ := write_eq_ok_iff.mp h
  have hcovers := ((regionFor?_eq_some_iff hm).mp hr).2
  have hvalue : r.overwrite a data hin ∈
      (OrderedMap.insert m r.region.base (r.overwrite a data hin)).values :=
    (OrderedMap.mem_values_iff _).mpr ⟨_, OrderedMap.get?_insert_self ..⟩
  refine read_eq_ok_iff.mpr ⟨_, (regionFor?_eq_some_iff hm').mpr ⟨hvalue, hcovers⟩, hin, ?_⟩
  have hfit := offset_add_length_le r hin
  have hfirst : (r.bytes.take (r.offset a)).length = r.offset a := by
    rw [List.length_take]
    omega
  change data = ((r.bytes.take (r.offset a) ++ data ++
    r.bytes.drop (r.offset a + data.length)).drop (r.offset a)).take data.length
  rw [List.append_assoc, List.drop_left' hfirst, List.take_left]

theorem exists_write_of_isMapped {m : AddressSpace} {region : Region} (h : m.IsMapped region)
    (hm : m.Sound) (hfree : m.isHeld region.base = false) {a : Address} {data : List UInt8}
    (hin : region.Contains a data.length) (hcovers : region.Covers a) :
    ∃ m', m.write a data = .ok m' := by
  obtain ⟨r, hget, rfl⟩ := h
  have hr : m.regionFor? a = some r :=
    (regionFor?_eq_some_iff hm).mpr ⟨m.mem_values_iff.mpr ⟨_, hget⟩, hcovers⟩
  rw [isHeld, hget, Option.any_some] at hfree
  exact ⟨_, write_eq_ok_iff.mpr ⟨r, hr, hfree, hin, rfl⟩⟩

theorem write_ne_ok_of_le {m m' : AddressSpace} {a : Address} {data : List UInt8}
    (h : UInt64.size ≤ a.toNat + data.length) : m.write a data ≠ .ok m' := by
  intro hok
  obtain ⟨r, -, -, hin, -⟩ := write_eq_ok_iff.mp hok
  have hstop : r.region.stop ≤ topAddress := Nat.min_le_right _ _
  have hlt : topAddress < UInt64.size := by decide
  have := hin.2
  omega

/-- What can be done with a region. The last address of the space cannot be written, even where the
region was mapped for it. -/
structure IsUsable (m : AddressSpace) (region : Region) : Prop where
  copy : ∀ a data, region.Spans a data.length → a.toNat + data.length < UInt64.size →
    ∃ m', m.write a data = .ok m' ∧ m'.read a data.length = .ok data
  fill : ∀ a length value, region.Spans a length → a.toNat + length < UInt64.size →
    ∃ m', m.fill a length value = .ok m' ∧ m'.read a length = .ok (List.replicate length value)
  copy_refused : ∀ a data m', a.toNat + data.length = UInt64.size → m.write a data ≠ .ok m'
  fill_refused : ∀ a length value m', a.toNat + length = UInt64.size → m.fill a length value ≠ .ok m'

theorem isUsable_actAll {before later : List Action} {base : Address} {size : UInt64}
    {region : Region} {m : AddressSpace}
    (hmap : (actAll .empty before).map base size = .ok (region, m))
    (hkept : .call (.unmap base) ∉ later) (hfree : (m.actAll later).isHeld base = false) :
    IsUsable (m.actAll later) ⟨base, size⟩ := by
  have hm : m.Reachable := .map (Reachable.empty.actAll before) hmap
  have hsound := (hm.actAll later).sound
  have hwrite : ∀ a data, (Region.mk base size).Spans a data.length →
      a.toNat + data.length < UInt64.size →
        ∃ m', (m.actAll later).write a data = .ok m' ∧ m'.read a data.length = .ok data := by
    intro a data hspans hlast
    obtain ⟨hin, hcovers⟩ := hspans.contains hlast
    obtain ⟨rfl, -⟩ := exists_of_map_eq_ok hmap
    have hne := Nat.lt_of_le_of_lt hcovers.1 hcovers.2
    have hmapped := (isMapped_of_map hmap).actAll hm hne hkept
    obtain ⟨m', hok⟩ := exists_write_of_isMapped hmapped hsound hfree hin hcovers
    exact ⟨m', hok, read_of_write hsound hok⟩
  constructor
  case copy => exact hwrite
  case fill =>
    intro a length value hspans hlast
    simp only [fill_eq_ok_iff]
    simpa using hwrite a (List.replicate length value) (by simpa using hspans) (by simpa using hlast)
  case copy_refused =>
    intro a data m' hend
    exact write_ne_ok_of_le (Nat.le_of_eq hend.symm)
  case fill_refused =>
    intro a length value m' hend hok
    refine write_ne_ok_of_le ?_ (fill_eq_ok_iff.mp hok)
    rw [List.length_replicate]
    exact Nat.le_of_eq hend.symm

theorem isUsable_actAll_released :
    let before : List Action := [.call (.map 16 4)]
    let later : List Action := [.hold 21 2, .call (.copyIn 20 [1]), .call (.copyIn 17 [2]), .release 20,
      .call (.unmap 16), .call (.map 24 8)]
    ∃ region m, (actAll .empty before).map 20 4 = .ok (region, m) ∧
      .call (.unmap 20) ∉ later ∧ (m.actAll later).isHeld 20 = false ∧
      IsUsable (m.actAll later) ⟨20, 4⟩ := by
  intro before later
  have hmap : (actAll .empty before).map 20 4 = .ok _ := rfl
  exact ⟨_, _, hmap, by decide, by decide, isUsable_actAll hmap (by decide) (by decide)⟩

theorem not_forall_spans_usable :
    ¬ ∀ (before later : List Action) (base : Address) (size : UInt64) (region : Region)
        (m : AddressSpace),
      (actAll .empty before).map base size = .ok (region, m) →
        .call (.unmap base) ∉ later → (m.actAll later).isHeld base = false →
          ∀ a data, (Region.mk base size).Spans a data.length →
            ∃ m', (m.actAll later).write a data = .ok m' ∧ m'.read a data.length = .ok data := by
  intro h
  obtain ⟨m', hok, -⟩ := h [] [] 0xfffffffffffffffc 4 _ _ rfl (by decide) (by decide)
    0xffffffffffffffff [7] (by decide)
  exact write_ne_ok_of_le (by decide) hok

end AddressSpace

end NumaFabric
