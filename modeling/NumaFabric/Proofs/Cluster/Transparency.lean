import NumaFabric.Proofs.Cluster.Delivery
/-!
Runs of a cluster. Main statement: what the nodes end up holding does not depend on which nodes the
commands are given to; no command travels twice, and none touches a node that does not own its
destination.
-/

namespace NumaFabric

open NumaFabric.Wire

namespace Cluster

def run (fuel : Nat) (c : Cluster) (submissions : List Submission) : Cluster :=
  submissions.foldl (execute fuel) c

def memories (c : Cluster) : List LocalMemory := c.nodes.map ClusterNode.memory

theorem execute_of_sends_nothing {c : Cluster} (hf : IsFabric c.stations) (hr : c.AtRest)
    (fuel : Nat) {s : Submission} {n : ClusterNode} (hi : c.nodes[s.index]? = some n)
    (hc : s.command.payload.length < 2 ^ 32)
    (hends : ∀ owner address, ¬ n.router.GoesTo s.command owner address) :
    (c.execute fuel s).AtRest ∧
      (c.execute fuel s).stations = c.stations.map (Station.carryOut s.command) ∧
      c.travels fuel s = [] := by
  obtain ⟨out, c', hsends, hdeparting, hstep, hrest, hstations⟩ := exists_step_enter_eq hf hr hi hc
  cases hsends with
  | frame haway _ => exact absurd haway (hends _ _)
  | nothing _ =>
      obtain ⟨hsettle, hdone⟩ := settle_of_atRest hrest fuel
      have hstep' : (c.enter s).step = c' := hstep
      have hn := station_mem (List.mem_of_getElem? hi)
      have hcarried : c'.stations = c.stations.map (Station.carryOut s.command) := by
        rw [hstations]
        refine List.map_congr_left fun t ht => ?_
        split
        · rfl
        · rename_i hother
          exact (hf.carryOut_eq_of_not_goesTo hn ht hother hends).symm
      rw [execute, travels, hdeparting, hstep', hsettle, hdone]
      exact ⟨hrest, hcarried, rfl⟩

theorem execute_of_goesTo {c : Cluster} (hf : IsFabric c.stations) (hr : c.AtRest) {fuel : Nat}
    (hfuel : 0 < fuel) {s : Submission} {n : ClusterNode} (hi : c.nodes[s.index]? = some n)
    (hc : s.command.payload.length < 2 ^ 32) {owner : NodeId} {address : IpAddress}
    (haway : n.router.GoesTo s.command owner address) :
    (c.execute fuel s).AtRest ∧
      (c.execute fuel s).stations = c.stations.map (Station.carryOut s.command) ∧
      ∃ frame, c.travels fuel s = [frame] := by
  obtain ⟨out, c', hsends, hdeparting, hstep, hrest, hstations⟩ := exists_step_enter_eq hf hr hi hc
  -- sending leaves the sender's own memory alone: the frame meets the stations as they were
  have hsame : c'.stations = c.stations := by
    have hunchanged : n.station.carryOut s.command = n.station :=
      congrArg (Station.mk n.ip) (Router.carryOut_of_not_staysHere haway.not_staysHere)
    rw [hstations]
    refine (List.map_congr_left fun t ht => ?_).trans (List.map_id c.stations)
    split
    · rename_i hnode
      rw [hf.eq_of_node_eq ht (station_mem (List.mem_of_getElem? hi)) hnode]
      exact hunchanged
    · rfl
  cases hsends with
  | nothing hends => exact absurd haway (hends _ _)
  | @frame owner address frame haway hdecode =>
      obtain ⟨t, ht, rfl, -, hstays⟩ :=
        hf.exists_target (station_mem (List.mem_of_getElem? hi)) haway
      rw [← hsame] at hf ht
      have hhere : ∀ u ∈ c'.stations, u.ip = t.ip → u.router.StaysHere s.command := by
        intro u hu hip
        rw [hf.eq_of_ip_eq hu ht hip]
        exact hstays
      have hother : ∀ u ∈ c'.stations, u.ip ≠ t.ip → u.carryOut s.command = u := by
        intro u hu hip
        refine hf.carryOut_eq_of_not_goesTo ht hu ?_ fun owner address hgoes => ?_
        · intro hnode
          exact hip (congrArg Station.ip (hf.eq_of_node_eq hu ht hnode))
        · exact hgoes.not_staysHere hstays
      have hc' : s.command.withFreshChecksum.payload.length < 2 ^ 32 := hc
      obtain ⟨hsilent, hatRest, hcarried⟩ := step_arrive hf hrest hc' hdecode hhere hother
      have hbusy := not_isQuiet_arrive hf hrest ht
      cases fuel with
      | zero => cases hfuel
      | succ fuel =>
          obtain ⟨hsettle, hdone⟩ := settle_of_atRest hatRest fuel
          rw [List.foldl_cons, List.foldl_nil] at hstep
          have hexecute : c.execute (fuel + 1) s =
              (Cluster.mk (arrive c'.nodes (t.ip, frame))).step := by
            rw [execute, hstep, settle, hbusy frame]
            exact hsettle
          have htravels : c.travels (fuel + 1) s = [(t.ip, frame)] := by
            rw [travels, hdeparting, hstep, carried, hbusy frame, hsilent, hdone]
            rfl
          rw [hexecute, ← hsame]
          exact ⟨hatRest, hcarried, (t.ip, frame), htravels⟩

/-- A command is carried out at every station, and travels in one frame at most. -/
theorem execute_eq {c : Cluster} (hf : IsFabric c.stations) (hr : c.AtRest) {fuel : Nat}
    (hfuel : 0 < fuel) {s : Submission} (hs : s.index < c.nodes.length)
    (hc : s.command.payload.length < 2 ^ 32) :
    (c.execute fuel s).AtRest ∧
      (c.execute fuel s).stations = c.stations.map (Station.carryOut s.command) ∧
      (c.travels fuel s).length ≤ 1 := by
  have hi : c.nodes[s.index]? = some c.nodes[s.index] := List.getElem?_eq_getElem hs
  by_cases haway : ∃ owner address, c.nodes[s.index].router.GoesTo s.command owner address
  · obtain ⟨owner, address, haway⟩ := haway
    obtain ⟨hrest, hstations, frame, htravels⟩ := execute_of_goesTo hf hr hfuel hi hc haway
    refine ⟨hrest, hstations, ?_⟩
    rw [htravels]
    exact Nat.le_refl 1
  · obtain ⟨hrest, hstations, htravels⟩ := execute_of_sends_nothing hf hr fuel hi hc
      fun owner address hgoes => haway ⟨owner, address, hgoes⟩
    refine ⟨hrest, hstations, ?_⟩
    rw [htravels]
    exact Nat.zero_le 1

theorem length_nodes_eq_of_stations {c c' : Cluster} {f : Station → Station}
    (h : c'.stations = c.stations.map f) : c'.nodes.length = c.nodes.length := by
  have hlength := congrArg List.length h
  simpa only [stations, List.length_map] using hlength

theorem run_eq {c : Cluster} (hf : IsFabric c.stations) (hr : c.AtRest) {fuel : Nat}
    (hfuel : 0 < fuel) {submissions : List Submission}
    (hs : ∀ s ∈ submissions, s.index < c.nodes.length)
    (hc : ∀ s ∈ submissions, s.command.payload.length < 2 ^ 32) :
    IsFabric (c.run fuel submissions).stations ∧ (c.run fuel submissions).AtRest ∧
      (c.run fuel submissions).stations =
        c.stations.map (Station.carryAll (submissions.map Submission.command)) := by
  induction submissions generalizing c with
  | nil => exact ⟨hf, hr, (List.map_id c.stations).symm⟩
  | cons s submissions ih =>
      rw [List.forall_mem_cons] at hs hc
      obtain ⟨hrest, hstations, -⟩ := execute_eq hf hr hfuel hs.1 hc.1
      have hfabric : IsFabric (c.execute fuel s).stations := by
        rw [hstations]
        exact hf.carryOut s.command
      have hindices : ∀ t ∈ submissions, t.index < (c.execute fuel s).nodes.length := by
        rw [length_nodes_eq_of_stations hstations]
        exact hs.2
      obtain ⟨hfabric', hrest', hrun⟩ := ih hfabric hrest hindices hc.2
      refine ⟨hfabric', hrest', ?_⟩
      change ((c.execute fuel s).run fuel submissions).stations = _
      rw [hrun, hstations, List.map_map]
      rfl

theorem memories_eq (c : Cluster) : c.memories = c.stations.map fun s => s.router.memory := by
  rw [stations, List.map_map]
  rfl

theorem memory_execute_eq {c : Cluster} (hf : IsFabric c.stations) (hr : c.AtRest) {fuel : Nat}
    (hfuel : 0 < fuel) {s : Submission} (hs : s.index < c.nodes.length)
    (hc : s.command.payload.length < 2 ^ 32) {i : Nat} {n n' : ClusterNode}
    (hn : c.nodes[i]? = some n) (hn' : (c.execute fuel s).nodes[i]? = some n')
    (howner : n.router.map.owner? s.command.destination ≠ some n.router.node) :
    n'.memory = n.memory := by
  obtain ⟨-, hstations, -⟩ := execute_eq hf hr hfuel hs hc
  have hat : (c.execute fuel s).stations[i]? = c.stations[i]?.map (Station.carryOut s.command) := by
    rw [hstations, List.getElem?_map]
  rw [stations, stations, List.getElem?_map, List.getElem?_map, hn, hn', Option.map_some,
    Option.map_some, Option.map_some] at hat
  have hstation : n'.station = n.station.carryOut s.command := Option.some.inj hat
  have hsame : n.station.router.carryOut s.command = n.station.router :=
    Router.carryOut_of_not_owner howner
  calc
    n'.memory = n'.station.router.memory := rfl
    _ = (n.station.router.carryOut s.command).memory := by rw [hstation]; rfl
    _ = n.memory := by rw [hsame]; rfl

/-- The same commands leave every node with the same memory, wherever they are given to. On its way
a command travels once at most, and only the owner of its destination is touched. -/
theorem memories_run_eq (c : Cluster) (hf : IsFabric c.stations) (hr : c.AtRest) (fuel : Nat)
    (hfuel : 0 < fuel) (xs ys : List Submission)
    (hsame : xs.map Submission.command = ys.map Submission.command)
    (hx : ∀ s ∈ xs, s.index < c.nodes.length) (hy : ∀ s ∈ ys, s.index < c.nodes.length)
    (hc : ∀ s ∈ xs, s.command.payload.length < 2 ^ 32) :
    (c.run fuel xs).memories = (c.run fuel ys).memories ∧ (c.run fuel xs).AtRest ∧
      ∀ before s after, xs = before ++ s :: after →
        ((c.run fuel before).travels fuel s).length ≤ 1 ∧
          ∀ (i : Nat) (n n' : ClusterNode), (c.run fuel before).nodes[i]? = some n →
            (c.run fuel (before ++ [s])).nodes[i]? = some n' →
            n.router.map.owner? s.command.destination ≠ some n.router.node →
            n'.memory = n.memory := by
  have hcy : ∀ s ∈ ys, s.command.payload.length < 2 ^ 32 := by
    have hcommands : ∀ command ∈ xs.map Submission.command, command.payload.length < 2 ^ 32 :=
      List.forall_mem_map.mpr hc
    rw [hsame] at hcommands
    exact List.forall_mem_map.mp hcommands
  obtain ⟨-, hrest, hxs⟩ := run_eq hf hr hfuel hx hc
  obtain ⟨-, -, hys⟩ := run_eq hf hr hfuel hy hcy
  refine ⟨?_, hrest, ?_⟩
  · rw [memories_eq, memories_eq, hxs, hys, hsame]
  · rintro before s after rfl
    rw [List.forall_mem_append, List.forall_mem_cons] at hx hc
    obtain ⟨hfabric, hquiet, hstations⟩ := run_eq hf hr hfuel hx.1 hc.1
    have hs : s.index < (c.run fuel before).nodes.length := by
      rw [length_nodes_eq_of_stations hstations]
      exact hx.2.1
    refine ⟨(execute_eq hfabric hquiet hfuel hs hc.2.1).2.2, fun i n n' hn hn' howner => ?_⟩
    rw [run, List.foldl_append] at hn'
    exact memory_execute_eq hfabric hquiet hfuel hs hc.2.1 hn hn' howner

def pairNode (ip : IpAddress) (node other : NodeId) (address : IpAddress) (base : Address) :
    ClusterNode where
  ip := ip
  dispatcher :=
    { ring := ⟨[], 4, false, by decide, by decide⟩
      pool := .new 5
      stats := .zero
      inFlight := []
      workers := 1
      maxDatagramSize := 4128
      state :=
        { node
          map := (OrderedMap.empty.insert 0x1000 ⟨0x1000, 16, 1⟩).insert 0x2000 ⟨0x2000, 16, 2⟩
          routes := OrderedMap.empty.insert other address
          memory := .of (AddressSpace.ofRegion ⟨base, 16⟩)
          retry := .localMemory
          links := (.empty, []) } }

theorem atRest_pairNode (ip : IpAddress) (node other : NodeId) (address : IpAddress)
    (base : Address) : (pairNode ip node other address base).AtRest :=
  ⟨⟨rfl, rfl, rfl, Nat.one_ne_zero⟩, rfl, Connections.connected_empty⟩

def pair : Cluster :=
  ⟨[pairNode (.v4 ⟨10, 0, 0, 1⟩) 1 2 (.v4 ⟨10, 0, 0, 2⟩) 0x1000,
    pairNode (.v4 ⟨10, 0, 0, 2⟩) 2 1 (.v4 ⟨10, 0, 0, 1⟩) 0x2000]⟩

theorem isFabric_pair : IsFabric pair.stations := by
  let first := pairNode (.v4 ⟨10, 0, 0, 1⟩) 1 2 (.v4 ⟨10, 0, 0, 2⟩) 0x1000
  let second := pairNode (.v4 ⟨10, 0, 0, 2⟩) 2 1 (.v4 ⟨10, 0, 0, 1⟩) 0x2000
  have hmem {s : Station} : s ∈ pair.stations ↔ s = first.station ∨ s = second.station := by
    change s ∈ [first.station, second.station] ↔ _
    rw [List.mem_cons, List.mem_singleton]
  refine ⟨by decide, by decide, ?_, ?_⟩
  · intro s hs t ht
    rcases hmem.mp hs with rfl | rfl <;> rcases hmem.mp ht with rfl | rfl <;> rfl
  · intro s hs node ip
    rcases hmem.mp hs with rfl | rfl
    · refine OrderedMap.get?_insert_empty_eq_some_iff.trans ⟨?_, ?_⟩
      · rintro ⟨rfl, rfl⟩
        exact ⟨second.station, hmem.mpr (.inr rfl), rfl, rfl, by decide⟩
      · rintro ⟨t, ht, rfl, rfl, hne⟩
        rcases hmem.mp ht with rfl | rfl
        · exact absurd rfl hne
        · exact ⟨rfl, rfl⟩
    · refine OrderedMap.get?_insert_empty_eq_some_iff.trans ⟨?_, ?_⟩
      · rintro ⟨rfl, rfl⟩
        exact ⟨first.station, hmem.mpr (.inl rfl), rfl, rfl, by decide⟩
      · rintro ⟨t, ht, rfl, rfl, hne⟩
        rcases hmem.mp ht with rfl | rfl
        · exact ⟨rfl, rfl⟩
        · exact absurd rfl hne

theorem atRest_pair : pair.AtRest := by
  intro n hn
  rcases List.mem_cons.mp hn with rfl | hn
  · exact atRest_pairNode ..
  · rw [List.mem_singleton.mp hn]
    exact atRest_pairNode ..

theorem memories_run_eq_pair :
    IsFabric pair.stations ∧ pair.AtRest ∧
      (pair.run 1 [⟨0, .call, .copy 0x2004 [7]⟩, ⟨1, .datagram, .fill 0x1000 5 2⟩]).memories =
        (pair.run 1 [⟨1, .datagram, .copy 0x2004 [7]⟩, ⟨0, .call, .fill 0x1000 5 2⟩]).memories ∧
      (pair.run 1 [⟨0, .call, .copy 0x2004 [7]⟩, ⟨1, .datagram, .fill 0x1000 5 2⟩]).memories.map
        (fun m => (m.calls, m.space.byte? 0x1001, m.space.byte? 0x2004)) =
        [(1, some 5, none), (1, none, some 7)] := by
  refine ⟨isFabric_pair, atRest_pair, ?_, by decide +kernel⟩
  exact (memories_run_eq pair isFabric_pair atRest_pair 1 Nat.one_pos
    [⟨0, .call, .copy 0x2004 [7]⟩, ⟨1, .datagram, .fill 0x1000 5 2⟩]
    [⟨1, .datagram, .copy 0x2004 [7]⟩, ⟨0, .call, .fill 0x1000 5 2⟩] rfl
    (by decide) (by decide) (by decide)).1

end Cluster

end NumaFabric
