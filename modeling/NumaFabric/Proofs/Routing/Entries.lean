import Mathlib.Data.String.Basic
import NumaFabric.Proofs.Json.Written
import NumaFabric.Proofs.Net.Rendered
import NumaFabric.Proofs.Runs.Sequences
import NumaFabric.Proofs.Store.Listed
import NumaFabric.Proofs.Text.Numerals
import NumaFabric.Routing.RouteTable

namespace NumaFabric.RouteTable

open NumaFabric.Text

/-! One entry. -/

/-- A key that means a node: its number, with blanks around it. -/
def Denotes (key : String) (node : NodeId) : Prop := IsNumber UInt32.size key.toList node.toNat

def ReadsAs (address : String) (ip : IpAddress) : Prop :=
  IpAddress.parse? (trim address.toList) = some ip

section

variable {node : NodeId} {ip : IpAddress}

theorem route_eq_ok_iff {f : String × String} :
    route f = .ok (node, ip) ↔ Denotes f.1 node ∧ ReadsAs f.2 ip := by
  rw [Denotes, ReadsAs, ← unsigned?_trim_eq_some_iff, route]
  cases hnode : unsigned? UInt32.size (trim f.1.toList) with
  | none => simp
  | some n =>
      dsimp only
      have hn := (unsigned?_trim_eq_some_iff.mp hnode).lt
      have hsame : UInt32.ofNat n = node ↔ n = node.toNat := by
        rw [← UInt32.toNat_inj, UInt32.toNat_ofNat_of_lt' hn]
      cases IpAddress.parse? (trim f.2.toList) with
      | none => simp
      | some ip' => simp [hsame]

def IsRoute (f : String × String) : Prop := (∃ node, Denotes f.1 node) ∧ ∃ ip, ReadsAs f.2 ip

theorem isRoute_iff {f : String × String} : IsRoute f ↔ ∃ r, route f = .ok r := by
  constructor
  · rintro ⟨⟨node, hnode⟩, ip, hip⟩
    exact ⟨(node, ip), route_eq_ok_iff.mpr ⟨hnode, hip⟩⟩
  · rintro ⟨⟨node, ip⟩, hroute⟩
    obtain ⟨hnode, hip⟩ := route_eq_ok_iff.mp hroute
    exact ⟨⟨node, hnode⟩, ip, hip⟩

end

/-! Whole tables. -/

def object (fields : List (String × String)) : Json := .obj (fields.map fun f => (f.1, .str f.2))

theorem parse?_text_object (fields : List (String × String)) :
    Json.parse? (object fields).text = some (object fields) := by
  apply Json.parse?_text
  rw [object, Json.IsPlain]
  induction fields with
  | nil => exact trivial
  | cons f fields ih => exact ⟨trivial, ih⟩

theorem toString?_eq_some_iff {j : Json} {s : String} : j.toString? = some s ↔ j = .str s := by
  cases j <;> simp [Json.toString?]

theorem mapM_toString?_eq_some_iff {fields : List (String × Json)} {l : List (String × String)} :
    fields.mapM (fun f => f.2.toString?.map (f.1, ·)) = some l ↔
      fields = l.map fun f => (f.1, .str f.2) := by
  induction fields generalizing l with
  | nil => cases l <;> simp
  | cons f fields ih =>
      simp only [List.mapM_cons, Option.bind_eq_bind, Option.bind_eq_some_iff, Option.pure_def,
        Option.map_eq_some_iff, toString?_eq_some_iff, ih, Option.some.injEq]
      constructor
      · rintro ⟨_, ⟨s, hs, rfl⟩, rest, hrest, rfl⟩
        rw [List.map_cons, ← hrest, ← hs]
      · intro h
        obtain ⟨first, rest, rfl, hfirst, hrest⟩ := List.map_eq_cons_iff.mp h.symm
        exact ⟨first, ⟨first.2, by rw [← hfirst], by rw [← hfirst]⟩, rest, hrest.symm, rfl⟩

theorem strings?_eq_some_iff {j : Json} {entries : OrderedMap String String} :
    strings? j = some entries ↔ ∃ fields, j = object fields ∧ entries = OrderedMap.ofList fields := by
  unfold strings?
  split
  · rename_i fields
    simp only [Option.map_eq_some_iff, mapM_toString?_eq_some_iff, object, Json.obj.injEq]
    exact exists_congr fun l => and_congr_right fun _ => eq_comm
  · rename_i hnot
    constructor
    · intro h
      cases h
    · rintro ⟨fields, rfl, -⟩
      exact absurd rfl (hnot _)

section

variable {text : String} {fields : List (String × String)} {t : RouteTable}

theorem parse_of_forall_ne (h : ∀ fields, Json.parse? text ≠ some (object fields)) :
    parse text = .error .notStrings := by
  unfold parse
  split
  · rfl
  · rename_i entries hentries
    obtain ⟨j, hj, hstrings⟩ := Option.bind_eq_some_iff.mp hentries
    obtain ⟨fields, rfl, -⟩ := strings?_eq_some_iff.mp hstrings
    exact absurd hj (h fields)

theorem parse_eq_ok_iff (h : Json.parse? text = some (object fields)) :
    parse text = .ok t ↔ ∃ routes, (OrderedMap.ofList fields).toList.map route = routes.map .ok ∧
      t = OrderedMap.ofList routes := by
  rw [parse, h, Option.bind_some, strings?_eq_some_iff.mpr ⟨fields, rfl, rfl⟩]
  simp only [bind_eq_ok_iff, mapM_eq_ok_iff, pure, Except.pure, Except.ok.injEq]
  exact exists_congr fun routes => and_congr_right fun _ => eq_comm

/-- The last entry of its key. -/
def Counts (fields : List (String × String)) (f : String × String) : Prop :=
  Stands (· = f) (fun e => e.1 = f.1) fields

theorem mem_toList_ofList_iff {f : String × String} :
    f ∈ (OrderedMap.ofList fields).toList ↔ Counts fields f :=
  (OrderedMap.mem_toList_iff _).trans OrderedMap.get?_ofList_eq_some_iff_stands

theorem counts_iff_mem (hkeys : (fields.map (·.1)).Nodup) {f : String × String} :
    Counts fields f ↔ f ∈ fields := by
  rw [← mem_toList_ofList_iff]
  exact (OrderedMap.perm_entries_ofList hkeys).mem_iff

theorem exists_parse_eq_ok_iff (h : Json.parse? text = some (object fields)) :
    (∃ t, parse text = .ok t) ↔ ∀ f, Counts fields f → IsRoute f := by
  simp only [parse_eq_ok_iff h, ← mapM_eq_ok_iff, ← mem_toList_ofList_iff, isRoute_iff]
  rw [← exists_mapM_eq_ok_iff]
  constructor
  · rintro ⟨_, routes, hroutes, -⟩
    exact ⟨routes, hroutes⟩
  · rintro ⟨routes, hroutes⟩
    exact ⟨_, routes, hroutes, rfl⟩

section Parsed

variable {routes : List (NodeId × IpAddress)} {entries : OrderedMap String String} {node : NodeId}
  {ip : IpAddress}

theorem isRoute_of_mem (h : entries.toList.map route = routes.map .ok) {f : String × String}
    (hf : f ∈ entries.toList) : IsRoute f :=
  isRoute_iff.mpr (exists_mapM_eq_ok_iff.mp ⟨routes, mapM_eq_ok_iff.mpr h⟩ f hf)

/-- Of several keys for a node the greatest one tells its address. -/
theorem get?_ofList_routes_iff (h : entries.toList.map route = routes.map .ok) :
    (OrderedMap.ofList routes).get? node = some ip ↔
      ∃ f ∈ entries.toList, (Denotes f.1 node ∧ ReadsAs f.2 ip) ∧
        ∀ g ∈ entries.toList, Denotes g.1 node → g.1 ≤ f.1 := by
  have hdenotes : ∀ g ∈ entries.toList,
      (∃ ip', route g = .ok (node, ip')) ↔ Denotes g.1 node := by
    intro g hg
    simp only [route_eq_ok_iff, exists_and_left]
    exact and_iff_left (isRoute_of_mem h hg).2
  -- the routes and the entries give one list of answers, over which the last for a node is carried
  calc (OrderedMap.ofList routes).get? node = some ip
      ↔ Stands (· = (node, ip)) (fun e => e.1 = node) routes :=
        OrderedMap.get?_ofList_eq_some_iff_stands
    _ ↔ Stands (· = .ok (node, ip)) (fun x => ∃ ip', x = .ok (node, ip'))
          (entries.toList.map route) := by
        rw [h, stands_map_iff]
        simp [Prod.ext_iff]
    _ ↔ ∃ f ∈ entries.toList, route f = .ok (node, ip) ∧
          ∀ g ∈ entries.toList, (∃ ip', route g = .ok (node, ip')) → compare g.1 f.1 ≠ .gt := by
        exact stands_map_iff.trans (OrderedMap.stands_iff_greatest entries.increasing)
    _ ↔ ∃ f ∈ entries.toList, (Denotes f.1 node ∧ ReadsAs f.2 ip) ∧
          ∀ g ∈ entries.toList, Denotes g.1 node → g.1 ≤ f.1 := by
        refine exists_congr fun f => and_congr_right fun _ => and_congr route_eq_ok_iff ?_
        refine forall₂_congr fun g hg => ?_
        rw [hdenotes g hg]
        exact imp_congr_right fun _ => compare_le_iff_le

theorem mem_routes_iff (h : entries.toList.map route = routes.map .ok) {e : NodeId × IpAddress} :
    e ∈ routes ↔ ∃ f ∈ entries.toList, route f = .ok e := by
  have hinjective : Function.Injective
      (Except.ok : NodeId × IpAddress → Except RouteTableError (NodeId × IpAddress)) :=
    fun _ _ => Except.ok.inj
  rw [← List.mem_map_of_injective hinjective, ← h, List.mem_map]

theorem size_ofList_routes (h : entries.toList.map route = routes.map .ok) :
    (OrderedMap.ofList routes).size = {node | ∃ f ∈ entries.toList, Denotes f.1 node}.ncard := by
  rw [OrderedMap.size_eq_ncard]
  congr 1
  ext node
  rw [Set.mem_ofPred_eq, Set.mem_ofPred_eq, OrderedMap.exists_get?_ofList_iff]
  constructor
  · rintro ⟨⟨node, ip⟩, he, rfl⟩
    obtain ⟨f, hf, hroute⟩ := (mem_routes_iff h).mp he
    exact ⟨f, hf, (route_eq_ok_iff.mp hroute).1⟩
  · rintro ⟨f, hf, hnode⟩
    obtain ⟨ip, hip⟩ := (isRoute_of_mem h hf).2
    exact ⟨(node, ip), (mem_routes_iff h).mpr ⟨f, hf, route_eq_ok_iff.mpr ⟨hnode, hip⟩⟩, rfl⟩

def Distinct (fs : List (String × String)) : Prop :=
  ∀ f ∈ fs, ∀ g ∈ fs, ∀ node, Denotes f.1 node → Denotes g.1 node → f = g

theorem nodup_routes (h : entries.toList.map route = routes.map .ok)
    (hdistinct : Distinct entries.toList) : (routes.map (·.1)).Nodup := by
  have hentries : entries.toList.Pairwise fun f g =>
      ∀ a b, route f = .ok a → route g = .ok b → a.1 ≠ b.1 := by
    apply entries.increasing.imp_of_mem
    intro f g hf hg hlt a b ha hb heq
    have hsame := hdistinct f hf g hg a.1 (route_eq_ok_iff.mp ha).1 (heq ▸ (route_eq_ok_iff.mp hb).1)
    rw [hsame] at hlt
    simp [Std.ReflCmp.compare_self] at hlt
  have hroutes : (routes.map Except.ok).Pairwise
      fun (x y : Except RouteTableError (NodeId × IpAddress)) =>
        ∀ a b, x = .ok a → y = .ok b → a.1 ≠ b.1 := by
    rw [← h, List.pairwise_map]
    exact hentries
  rw [List.pairwise_map] at hroutes
  exact List.pairwise_map.mpr (hroutes.imp fun hne => hne _ _ rfl rfl)

end Parsed

end

/-- What a table says that was read from an object of strings. -/
structure Routed (fields : List (String × String)) (t : RouteTable) : Prop where
  get?_iff : ∀ node ip, t.get? node = some ip ↔
    ∃ f ∈ fields, (Denotes f.1 node ∧ ReadsAs f.2 ip) ∧
      ∀ g ∈ fields, Denotes g.1 node → g.1 ≤ f.1
  size_eq : t.size = {node | ∃ f ∈ fields, Denotes f.1 node}.ncard
  kept_of_distinct : Distinct fields → t.size = fields.length ∧
    ∀ f ∈ fields, ∀ node ip, Denotes f.1 node → ReadsAs f.2 ip → t.get? node = some ip

theorem routed_of_parse {text : String} {fields : List (String × String)}
    (hjson : Json.parse? text = some (object fields)) (hkeys : (fields.map (·.1)).Nodup) :
    ((∃ t, parse text = .ok t) ↔ ∀ f ∈ fields, IsRoute f) ∧
      ∀ t, parse text = .ok t → Routed fields t := by
  have hmem (f : String × String) : f ∈ (OrderedMap.ofList fields).toList ↔ f ∈ fields :=
    (OrderedMap.perm_entries_ofList hkeys).mem_iff
  constructor
  · simp only [exists_parse_eq_ok_iff hjson, counts_iff_mem hkeys]
  · intro t ht
    obtain ⟨routes, hroutes, rfl⟩ := (parse_eq_ok_iff hjson).mp ht
    refine ⟨?_, ?_, ?_⟩
    · intro node ip
      simp only [get?_ofList_routes_iff hroutes, hmem]
    · simp only [size_ofList_routes hroutes, hmem]
    · intro hdistinct
      have hnodup := nodup_routes hroutes fun f hf g hg =>
        hdistinct f ((hmem f).mp hf) g ((hmem g).mp hg)
      constructor
      · have hlength : (OrderedMap.ofList fields).toList.length = routes.length := by
          simpa using congrArg List.length hroutes
        have hperm := (OrderedMap.perm_entries_ofList hnodup).length_eq
        rw [OrderedMap.size, hperm, ← hlength]
        exact (OrderedMap.perm_entries_ofList hkeys).length_eq
      · intro f hf node ip hnode hip
        rw [OrderedMap.get?_ofList_eq_some_iff hnodup, mem_routes_iff hroutes]
        exact ⟨f, (hmem f).mpr hf, route_eq_ok_iff.mpr ⟨hnode, hip⟩⟩

theorem routed_of_parse_twoSpellings :
    ∃ t, parse (object [("1", "10.0.0.1"), (" +01", "10.0.0.2"), ("2", "::1")]).text = .ok t ∧
      Routed [("1", "10.0.0.1"), (" +01", "10.0.0.2"), ("2", "::1")] t := by
  have hjson := parse?_text_object [("1", "10.0.0.1"), (" +01", "10.0.0.2"), ("2", "::1")]
  obtain ⟨haccepts, hrouted⟩ := routed_of_parse hjson (by decide)
  have hroutes : ∀ f ∈ [("1", "10.0.0.1"), (" +01", "10.0.0.2"), ("2", "::1")], IsRoute f := by
    simp only [List.forall_mem_cons, isRoute_iff]
    exact ⟨⟨_, rfl⟩, ⟨_, rfl⟩, ⟨_, rfl⟩, nofun⟩
  obtain ⟨t, ht⟩ := haccepts.mpr hroutes
  exact ⟨t, ht, hrouted t ht⟩

/-- A route is lost to another spelling of its key, and nothing is refused. -/
theorem not_forall_kept_of_parse :
    ¬ ∀ text fields, Json.parse? text = some (object fields) → (fields.map (·.1)).Nodup →
      (∀ t, parse text = .ok t → t.size = fields.length ∧
        ∀ f ∈ fields, ∀ node ip, Denotes f.1 node → ReadsAs f.2 ip → t.get? node = some ip) ∧
      (¬ Distinct fields → ∃ e, parse text = .error e) := by
  intro hall
  have hjson := parse?_text_object [("0", "10.0.0.1"), ("00", "10.0.0.2")]
  have hparse : parse (object [("0", "10.0.0.1"), ("00", "10.0.0.2")]).text =
      .ok (OrderedMap.ofList [(0, .v4 ⟨10, 0, 0, 1⟩), (0, .v4 ⟨10, 0, 0, 2⟩)]) :=
    (parse_eq_ok_iff hjson).mpr ⟨_, rfl, rfl⟩
  have hkept := ((hall _ _ hjson (by decide)).1 _ hparse).2
  have hfirst := hkept ("0", "10.0.0.1") (by simp) 0 (.v4 ⟨10, 0, 0, 1⟩)
    (unsigned?_trim_eq_some_iff.mp rfl) rfl
  exact absurd hfirst (by decide)

end NumaFabric.RouteTable
