import NumaFabric.Node.Startup
import NumaFabric.Proofs.Json.Records
import NumaFabric.Proofs.Numa.Owner
import NumaFabric.Proofs.Text.Utf8
/-!
The address map that a node starts with, against the ranges of its file and its memory pool. Main
statements: which addresses of the pool have an owner, and that some need not have one. Only the first
address of the pool is looked up before the pool is added, so a range that ends inside the pool leaves
the rest of it to nobody.
-/

namespace NumaFabric

open NumaFabric.Text

theorem AddressRange.ofJson?_toJson (r : AddressRange) : ofJson? r.toJson = some r := by
  rw [toJson, ofJson?, Json.record?_obj (by simp) (by simp)]
  simp [Json.Record.required]

theorem AddressRange.isShallow_toJson (r : AddressRange) : r.toJson.IsShallow 1 := by
  simp [toJson]

namespace AddressMap

def listed? (file : Option String) : Option (List AddressRange) :=
  file.bind fun text => (Json.parse? text).bind (Json.toList? AddressRange.ofJson?)

theorem listed?_text (ranges : List AddressRange) :
    listed? (some (Json.ofList AddressRange.toJson ranges).text) = some ranges := by
  have hshallow : (Json.ofList AddressRange.toJson ranges).IsShallow 2 := by
    simp [AddressRange.isShallow_toJson]
  rw [listed?, Option.bind_some, Json.parse?_text hshallow.1, Option.bind_some]
  exact Json.toList?_ofList AddressRange.ofJson?_toJson ranges

theorem load_eq_ok_iff {file : Option String} {m : AddressMap} :
    load file = .ok m ↔ ∃ ranges, listed? file = some ranges ∧ ofRanges ranges = .ok m := by
  cases file with
  | none => simp [load, listed?]
  | some text =>
      rw [load, listed?, Option.bind_some]
      cases (Json.parse? text).bind (Json.toList? AddressRange.ofJson?) <;> simp

theorem withPool_eq_ok {m map : AddressMap} {base : Address} {size : UInt64} {node : NodeId}
    (h : m.withPool base size node = .ok map) :
    (∃ n, m.owner? base = some n) ∧ map = m ∨
      m.owner? base = none ∧ m.insertRange base size node = .ok map := by
  unfold withPool at h
  split at h
  · rename_i n howner
    cases h
    exact .inl ⟨⟨n, howner⟩, rfl⟩
  · rename_i hnone
    exact .inr ⟨hnone, h⟩

/-- No range of the file holds the first address of the pool, so the pool is added. -/
def AddsPool (file : List AddressRange) (pool : AddressRange) : Prop :=
  ∀ r ∈ file, ¬ r.Holds pool.base

/-- A map that came from the ranges of a file and the range of a pool. -/
structure ServesPool (file : List AddressRange) (pool : AddressRange) (map : AddressMap) : Prop where
  kept : ∀ r ∈ file, r.base ≠ lastAddress → r ∈ map.ranges
  only : ∀ r ∈ map.ranges, r ∈ file ∨ r = pool ∧ AddsPool file pool
  owner_iff : ∀ a n, map.owner? a = some n ↔
    (∃ r ∈ file, r.node = n ∧ r.Holds a) ∨ AddsPool file pool ∧ pool.node = n ∧ pool.Holds a
  ownerless_iff : ∀ a, pool.Covers a → (map.owner? a = none ↔
    a = lastAddress ∨ ¬ AddsPool file pool ∧ ∀ r ∈ file, ¬ r.Holds a)

section

variable {file : List AddressRange} {pool : AddressRange} {m map : AddressMap}

theorem MadeFrom.addsPool_iff (hm : MadeFrom file m) :
    AddsPool file pool ↔ m.owner? pool.base = none := by
  rw [owner?_eq_none_iff hm.reachable.sound]
  constructor
  · intro hadds r hr
    exact hadds r (hm.only r hr)
  · intro hnone r hr hin
    exact hnone r (hm.kept r hr (AddressRange.base_ne_lastAddress_of_holds hin)) hin

theorem MadeFrom.withPool (hm : MadeFrom file m)
    (h : m.withPool pool.base pool.length pool.node = .ok map) :
    map.Reachable ∧ (∀ r ∈ map.ranges, r ∈ file ∨ r = pool ∧ AddsPool file pool) ∧
      (∀ r ∈ file, r.base ≠ lastAddress → r ∈ map.ranges) ∧
      (AddsPool file pool → pool ∈ map.ranges) := by
  obtain ⟨⟨n, howner⟩, rfl⟩ | ⟨hnone, hok⟩ := withPool_eq_ok h
  · refine ⟨hm.reachable, fun r hr => .inl (hm.only r hr), hm.kept, ?_⟩
    intro hadds
    rw [hm.addsPool_iff.mp hadds] at howner
    cases howner
  · have hmem := mem_ranges_of_insertRange hm.reachable.sound hok
    refine ⟨.insert hm.reachable hok, ?_, ?_, ?_⟩
    · intro r hr
      rcases (hmem r).mp hr with rfl | ⟨hold, -⟩
      · exact .inr ⟨rfl, hm.addsPool_iff.mpr hnone⟩
      · exact .inl (hm.only r hold)
    · intro r hr hlast
      exact hm.reachable.kept_insertRange hok (hm.kept r hr hlast) hlast
    · intro _
      exact (hmem pool).mpr (.inl rfl)

theorem servesPool_of_withPool (hm : MadeFrom file m)
    (h : m.withPool pool.base pool.length pool.node = .ok map) : ServesPool file pool map := by
  obtain ⟨hreachable, honly, hkept, hpool⟩ := hm.withPool h
  have howner : ∀ a n, map.owner? a = some n ↔ (∃ r ∈ file, r.node = n ∧ r.Holds a) ∨
      AddsPool file pool ∧ pool.node = n ∧ pool.Holds a := by
    intro a n
    rw [owner?_eq_some_iff hreachable.sound]
    constructor
    · rintro ⟨r, hr, hnode, hin⟩
      rcases honly r hr with hfile | ⟨rfl, hadds⟩
      · exact .inl ⟨r, hfile, hnode, hin⟩
      · exact .inr ⟨hadds, hnode, hin⟩
    · rintro (⟨r, hr, hnode, hin⟩ | ⟨hadds, hnode, hin⟩)
      · exact ⟨r, hkept r hr (AddressRange.base_ne_lastAddress_of_holds hin), hnode, hin⟩
      · exact ⟨pool, hpool hadds, hnode, hin⟩
  refine ⟨hkept, honly, howner, ?_⟩
  intro a ha
  rw [Option.eq_none_iff_forall_ne_some]
  simp only [Ne, howner, not_or, not_exists, not_and]
  constructor
  · intro hnobody
    by_cases hlast : a = lastAddress
    · exact .inl hlast
    · refine .inr ⟨fun hadds => ?_, fun r hr => (hnobody r.node).1 r hr rfl⟩
      exact (hnobody pool.node).2 hadds rfl ((pool.holds_iff_covers a).mpr ⟨ha, hlast⟩)
  · rintro (rfl | ⟨hnot, hfree⟩) n
    · constructor
      · intro r _ _ hin
        exact ((r.holds_iff_covers _).mp hin).2 rfl
      · intro _ _ hin
        exact ((pool.holds_iff_covers _).mp hin).2 rfl
    · exact ⟨fun r hr _ => hfree r hr, fun hadds => absurd hadds hnot⟩

end

end AddressMap

namespace FabricConfig

open AddressMap

variable {c : FabricConfig} {s : Surroundings} {node : NodeId} {map : AddressMap}

def configuredRanges (c : FabricConfig) (s : Surroundings) : List AddressRange :=
  (c.addressMapPath.bind fun path => listed? (s.text? path)).getD []

def poolRange (c : FabricConfig) (node : NodeId) : AddressRange :=
  ⟨c.memoryPoolBase, c.memoryPoolBytes, node⟩

theorem orElseFail_eq_ok_iff {ε α : Type} {e : StartupError} {x : Except ε α} {a : α} :
    orElseFail e x = .ok a ↔ x = .ok a := by
  cases x <;> simp [orElseFail]

theorem orElseFail_bind_eq_ok_iff {ε α β : Type} {e : StartupError} {x : Except ε α}
    {f : α → Except StartupError β} {b : β} :
    (orElseFail e x >>= f) = .ok b ↔ ∃ a, x = .ok a ∧ f a = .ok b := by
  cases x <;> simp [orElseFail, bind, Except.bind]

theorem buildAddressMap_eq_ok_iff :
    c.buildAddressMap s node = .ok map ↔
      (∀ path, c.addressMapPath = some path → ∃ ranges, listed? (s.text? path) = some ranges) ∧
      ∃ m, ofRanges (c.configuredRanges s) = .ok m ∧
        m.withPool c.memoryPoolBase c.memoryPoolBytes node = .ok map := by
  unfold buildAddressMap configuredRanges
  cases c.addressMapPath with
  | none =>
      change orElseFail _ _ = _ ↔ _
      rw [orElseFail_eq_ok_iff]
      simp [ofRanges, pure, Except.pure]
  | some path =>
      dsimp only
      rw [orElseFail_bind_eq_ok_iff]
      simp only [orElseFail_eq_ok_iff, load_eq_ok_iff, Option.bind_some, Option.some.injEq,
        forall_eq']
      cases listed? (s.text? path) <;> simp

/-- What the map that a node starts with makes of its pool. -/
theorem servesPool_of_buildAddressMap (h : c.buildAddressMap s node = .ok map) :
    ServesPool (c.configuredRanges s) (c.poolRange node) map := by
  obtain ⟨-, m, hm, hpool⟩ := buildAddressMap_eq_ok_iff.mp h
  exact servesPool_of_withPool (madeFrom_of_ofRanges hm) hpool

def withRanges (base : Address) (bytes : UInt64) : FabricConfig :=
  { (default : FabricConfig) with
    addressMapPath := some "ranges.json", memoryPoolBase := base, memoryPoolBytes := bytes }

end FabricConfig

def Surroundings.listing (ranges : List AddressRange) : Surroundings where
  host := ⟨[]⟩
  file _ := some (utf8Encode (Json.ofList AddressRange.toJson ranges).text)
  topology := none
  affinity := []
  modules := ⟨"kernels", []⟩

namespace FabricConfig

open AddressMap

theorem listed?_listing (ranges : List AddressRange) (path : String) :
    listed? ((Surroundings.listing ranges).text? path) = some ranges := by
  rw [Surroundings.text?, Surroundings.listing, Option.bind_some, utf8Decode?_utf8Encode,
    listed?_text]

theorem configuredRanges_listing (ranges : List AddressRange) (base : Address) (bytes : UInt64) :
    (withRanges base bytes).configuredRanges (.listing ranges) = ranges := by
  rw [configuredRanges, withRanges, Option.bind_some, listed?_listing, Option.getD_some]

theorem buildAddressMap_listing {ranges : List AddressRange} {m map : AddressMap}
    (hm : ofRanges ranges = .ok m) {base : Address} {bytes : UInt64} {node : NodeId}
    (h : m.withPool base bytes node = .ok map) :
    (withRanges base bytes).buildAddressMap (.listing ranges) node = .ok map := by
  apply buildAddressMap_eq_ok_iff.mpr
  rw [configuredRanges_listing]
  exact ⟨fun path _ => ⟨ranges, listed?_listing ranges path⟩, m, hm, h⟩

theorem servesPool_of_buildAddressMap_between :
    let c := withRanges 0x1010 0x10
    let s := Surroundings.listing [⟨0x1000, 0x10, 1⟩, ⟨0x1020, 0x10, 2⟩]
    ∃ map, c.buildAddressMap s 3 = .ok map ∧
      ServesPool (c.configuredRanges s) (c.poolRange 3) map ∧
      map.owner? 0x100f = some 1 ∧ map.owner? 0x1010 = some 3 ∧ map.owner? 0x1020 = some 2 := by
  intro c s
  have hbuilt : c.buildAddressMap s 3 = .ok _ := buildAddressMap_listing rfl rfl
  exact ⟨_, hbuilt, servesPool_of_buildAddressMap hbuilt, by decide, by decide, by decide⟩

/-- A range that ends inside the pool leaves the rest of it to nobody, and of two ranges at the last
address one is lost. -/
theorem not_forall_pool_owned_and_ranges_kept :
    (¬ ∀ (c : FabricConfig) (s : Surroundings) (node : NodeId) (pool : Region × AddressSpace)
        (map : AddressMap),
      AddressSpace.map .empty c.memoryPoolBase c.memoryPoolBytes = .ok pool →
        c.buildAddressMap s node = .ok map →
          ∀ a, (c.poolRange node).Covers a → ∃ n, map.owner? a = some n) ∧
      ¬ ∀ (c : FabricConfig) (s : Surroundings) (node : NodeId) (pool : Region × AddressSpace)
        (map : AddressMap),
      AddressSpace.map .empty c.memoryPoolBase c.memoryPoolBytes = .ok pool →
        c.buildAddressMap s node = .ok map → ∀ r ∈ c.configuredRanges s, r ∈ map.ranges := by
  constructor
  · intro h
    have hbuilt : (withRanges 0x1000 0x20).buildAddressMap (.listing [⟨0x1000, 0x10, 1⟩]) 1 =
      .ok _ := buildAddressMap_listing rfl rfl
    have howned := h _ _ 1 _ _ rfl hbuilt 0x1010 (by decide)
    rw [← Option.isSome_iff_exists] at howned
    revert howned
    decide
  · intro h
    have hbuilt : (withRanges 0x1000 0x10).buildAddressMap
      (.listing [⟨lastAddress, 1, 1⟩, ⟨lastAddress, 1, 2⟩]) 1 = .ok _ :=
      buildAddressMap_listing rfl rfl
    have hkept := h _ _ 1 _ _ rfl hbuilt ⟨lastAddress, 1, 1⟩
    rw [configuredRanges_listing] at hkept
    revert hkept
    decide

end FabricConfig

end NumaFabric
