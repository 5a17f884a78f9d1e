import Mathlib.Data.List.Nodup
import NumaFabric.Proofs.Cluster.Station

namespace NumaFabric

open NumaFabric.Wire

/-- Stations of different names and addresses that share an address map and have routes to exactly
the others. -/
structure IsFabric (stations : List Station) : Prop where
  nodes : (stations.map fun s => s.router.node).Nodup
  ips : (stations.map Station.ip).Nodup
  map : ∀ s ∈ stations, ∀ t ∈ stations, s.router.map = t.router.map
  routes : ∀ s ∈ stations, ∀ node ip, s.router.routes.get? node = some ip ↔
    ∃ t ∈ stations, t.router.node = node ∧ t.ip = ip ∧ node ≠ s.router.node

theorem IsFabric.carryOut {stations : List Station} (h : IsFabric stations) (c : Command) :
    IsFabric (stations.map (Station.carryOut c)) := by
  have hnode (s : Station) : (s.carryOut c).router.node = s.router.node :=
    Router.node_carryOut s.router c
  have hmap (s : Station) : (s.carryOut c).router.map = s.router.map :=
    Router.map_carryOut s.router c
  have hroutes (s : Station) : (s.carryOut c).router.routes = s.router.routes :=
    Router.routes_carryOut s.router c
  have hip (s : Station) : (s.carryOut c).ip = s.ip := rfl
  constructor
  · simpa only [List.map_map, Function.comp_def, hnode] using h.nodes
  · simpa only [List.map_map, Function.comp_def, hip] using h.ips
  · simpa only [List.forall_mem_map, hmap] using h.map
  · rw [List.forall_mem_map]
    intro s hs node ip
    simp only [List.mem_map, exists_exists_and_eq_and, hroutes, hnode, hip]
    exact h.routes s hs node ip

theorem IsFabric.eq_of_node_eq {stations : List Station} (h : IsFabric stations) {s t : Station}
    (hs : s ∈ stations) (ht : t ∈ stations) (heq : s.router.node = t.router.node) : s = t :=
  List.inj_on_of_nodup_map h.nodes hs ht heq

theorem IsFabric.eq_of_ip_eq {stations : List Station} (h : IsFabric stations) {s t : Station}
    (hs : s ∈ stations) (ht : t ∈ stations) (heq : s.ip = t.ip) : s = t :=
  List.inj_on_of_nodup_map h.ips hs ht heq

theorem IsFabric.carryOut_eq_of_not_goesTo {stations : List Station} (h : IsFabric stations)
    {s t : Station} (hs : s ∈ stations) (ht : t ∈ stations)
    (hne : t.router.node ≠ s.router.node) {c : Command}
    (hends : ∀ owner address, ¬ s.router.GoesTo c owner address) : t.carryOut c = t := by
  have hstays : ¬ t.router.StaysHere c := by
    rintro ⟨hvalue, howner⟩
    rw [h.map t ht s hs] at howner
    have hroute := (h.routes s hs t.router.node t.ip).mpr ⟨t, ht, rfl, rfl, hne⟩
    exact hends t.router.node t.ip ⟨hvalue, howner, hne, hroute⟩
  rw [Station.carryOut, Router.carryOut_of_not_staysHere hstays]

theorem IsFabric.exists_target {stations : List Station} (h : IsFabric stations) {s : Station}
    (hs : s ∈ stations) {c : Command} {owner : NodeId} {address : IpAddress}
    (haway : s.router.GoesTo c owner address) :
    ∃ t ∈ stations, t.ip = address ∧ t.router.node = owner ∧ t.router.StaysHere c := by
  obtain ⟨hvalue, howner, -, hroute⟩ := haway
  obtain ⟨t, ht, hnode, hip, -⟩ := (h.routes s hs owner address).mp hroute
  refine ⟨t, ht, hip, hnode, hvalue, ?_⟩
  rw [h.map t ht s hs, hnode]
  exact howner

end NumaFabric
