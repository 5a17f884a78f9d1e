import NumaFabric.Proofs.Cluster.Fabric

namespace NumaFabric

open NumaFabric.Wire

section Distinct

variable {α β γ : Type} [DecidableEq β]

theorem map_ite_eq_self {key : α → β} {l : List α} {k : β} (h : k ∉ l.map key) (f : α → α) :
    (l.map fun a => if key a = k then f a else a) = l := by
  have hsame : ∀ a ∈ l, (if key a = k then f a else a) = a := by
    intro a ha
    rw [if_neg]
    rintro rfl
    exact h (List.mem_map_of_mem ha)
  rw [List.map_congr_left hsame, List.map_id']

theorem set_eq_map_of_nodup {key : α → β} {l : List α} (h : (l.map key).Nodup) {i : Nat} {x : α}
    (hx : l[i]? = some x) (y : α) :
    l.set i y = l.map fun a => if key a = key x then y else a := by
  induction l generalizing i with
  | nil => rfl
  | cons b l ih =>
      rw [List.map_cons, List.nodup_cons] at h
      obtain ⟨hb, hl⟩ := h
      cases i with
      | zero =>
          obtain rfl : b = x := Option.some.inj hx
          rw [List.set_cons_zero, List.map_cons, if_pos rfl, map_ite_eq_self hb fun _ => y]
      | succ i =>
          have hne : key b ≠ key x := by
            intro heq
            exact hb (heq ▸ List.mem_map_of_mem (List.mem_of_getElem? hx))
          rw [List.set_cons_succ, List.map_cons, if_neg hne, ih hl hx]

theorem flatMap_ite_eq_of_nodup {key : α → β} {l : List α} (h : (l.map key).Nodup) {x : α}
    (hx : x ∈ l) (out : List γ) :
    (l.flatMap fun a => if key a = key x then out else []) = out := by
  induction l with
  | nil => cases hx
  | cons b l ih =>
      rw [List.map_cons, List.nodup_cons] at h
      obtain ⟨hb, hl⟩ := h
      rw [List.flatMap_cons]
      rcases List.mem_cons.mp hx with rfl | hmem
      · have hrest : (l.flatMap fun a => if key a = key x then out else []) = [] := by
          rw [List.flatMap_eq_nil_iff]
          intro a ha
          rw [if_neg]
          intro heq
          exact hb (heq ▸ List.mem_map_of_mem ha)
        rw [if_pos rfl, hrest, List.append_nil]
      · have hne : key b ≠ key x := by
          intro heq
          exact hb (heq ▸ List.mem_map_of_mem hmem)
        rw [if_neg hne, List.nil_append, ih hl hmem]

end Distinct

structure Submission where
  index : Nat
  entry : Entry
  command : Command

namespace Cluster

def stations (c : Cluster) : List Station := c.nodes.map ClusterNode.station

def forwarding (c : Cluster) : Forward (Connections × Transit) :=
  Connections.forward (wiring c.addresses)

def route (c : Cluster) (index : Nat) (command : Command) : Cluster :=
  match c.nodes[index]? with
  | none => c
  | some n => ⟨c.nodes.set index (n.withRouter (n.router.route c.forwarding command).2)⟩

def enter (c : Cluster) (s : Submission) : Cluster :=
  match s.entry with
  | .call => c.route s.index s.command
  | .datagram =>
    match encodeFramed s.command.withFreshChecksum with
    | .ok frame => (c.submit s.index frame).2
    | .error _ => c

/-- The frames that the next step carries. -/
def departing (c : Cluster) : Transit := c.nodes.flatMap fun n => (n.settled c.forwarding).1

def carried : (fuel : Nat) → Cluster → Transit
  | 0, _ => []
  | fuel + 1, c => if c.isQuiet then [] else c.departing ++ carried fuel c.step

def execute (fuel : Nat) (c : Cluster) (s : Submission) : Cluster := (c.enter s).step.settle fuel

def travels (fuel : Nat) (c : Cluster) (s : Submission) : Transit :=
  (c.enter s).departing ++ (c.enter s).step.carried fuel

def AtRest (c : Cluster) : Prop := ∀ n ∈ c.nodes, n.AtRest

theorem step_eq (c : Cluster) :
    c.step = ⟨c.departing.foldl arrive (c.nodes.map fun n => (n.settled c.forwarding).2)⟩ := by
  change (⟨((c.nodes.map (ClusterNode.settled c.forwarding)).flatMap (·.1)).foldl arrive
    ((c.nodes.map (ClusterNode.settled c.forwarding)).map (·.2))⟩ : Cluster) = _
  rw [List.flatMap_map, List.map_map]
  rfl

theorem arrive_eq_map {nodes : List ClusterNode} (h : (nodes.map (·.ip)).Nodup)
    (frame : IpAddress × List UInt8) :
    arrive nodes frame = nodes.map fun n => if n.ip = frame.1 then n.receive frame.2 else n := by
  induction nodes with
  | nil => rfl
  | cons n nodes ih =>
      rw [List.map_cons, List.nodup_cons] at h
      obtain ⟨hn, hnodes⟩ := h
      rw [arrive, List.map_cons]
      by_cases hip : n.ip = frame.1
      · rw [hip] at hn
        rw [if_pos hip, if_pos hip, map_ite_eq_self hn]
        rfl
      · rw [if_neg hip, if_neg hip, ih hnodes]

theorem step_of_silent {c : Cluster} (h : ∀ n ∈ c.nodes, (n.settled c.forwarding).1 = []) :
    c.departing = [] ∧ c.step = ⟨c.nodes.map fun n => (n.settled c.forwarding).2⟩ := by
  have hdeparting : c.departing = [] := List.flatMap_eq_nil_iff.mpr h
  refine ⟨hdeparting, ?_⟩
  rw [step_eq, hdeparting, List.foldl_nil]

theorem isQuiet_of_atRest {c : Cluster} (h : c.AtRest) : c.isQuiet = true :=
  List.all_eq_true.mpr fun n hn => (h n hn).isEmpty_ring

theorem settle_of_atRest {c : Cluster} (h : c.AtRest) (fuel : Nat) :
    c.settle fuel = c ∧ c.carried fuel = [] := by
  cases fuel with
  | zero => exact ⟨rfl, rfl⟩
  | succ fuel => exact ⟨if_pos (isQuiet_of_atRest h), if_pos (isQuiet_of_atRest h)⟩

theorem nodup_ips {c : Cluster} (h : IsFabric c.stations) : (c.nodes.map (·.ip)).Nodup := by
  have hips := h.ips
  rw [stations, List.map_map] at hips
  exact hips

theorem nodup_nodes {c : Cluster} (h : IsFabric c.stations) :
    (c.nodes.map fun n => n.router.node).Nodup := by
  have hnodes := h.nodes
  rw [stations, List.map_map] at hnodes
  exact hnodes

theorem station_mem {c : Cluster} {n : ClusterNode} (h : n ∈ c.nodes) : n.station ∈ c.stations :=
  List.mem_map_of_mem h

theorem eq_of_node_eq {c : Cluster} (h : IsFabric c.stations) {n m : ClusterNode}
    (hn : n ∈ c.nodes) (hm : m ∈ c.nodes) (heq : n.router.node = m.router.node) : n = m :=
  List.inj_on_of_nodup_map (nodup_nodes h) hn hm heq

theorem mem_addresses_of_goesTo {c : Cluster} (h : IsFabric c.stations) {n : ClusterNode}
    (hn : n ∈ c.nodes) {command : Command} (owner : NodeId) (address : IpAddress)
    (haway : n.router.GoesTo command owner address) : address ∈ c.addresses := by
  obtain ⟨t, ht, rfl, -⟩ := h.exists_target (station_mem hn) haway
  obtain ⟨m, hm, rfl⟩ := List.mem_map.mp ht
  exact List.mem_map_of_mem hm

theorem nodes_enter {c : Cluster} (hf : IsFabric c.stations) {s : Submission} {n : ClusterNode}
    (hi : c.nodes[s.index]? = some n) (hc : s.command.payload.length < 2 ^ 32) :
    (c.enter s).nodes = c.nodes.map fun m =>
      if m.router.node = n.router.node then n.accept c.forwarding s.entry s.command else m := by
  have hset : (c.enter s).nodes =
      c.nodes.set s.index (n.accept c.forwarding s.entry s.command) := by
    obtain ⟨index, entry, command⟩ := s
    cases entry with
    | call =>
        simp only [enter, route, hi]
        rfl
    | datagram =>
        obtain ⟨frame, hframe, -⟩ := exists_encodeFramed_withFreshChecksum_eq hc
        simp only [enter, ClusterNode.accept, hframe, submit, hi]
        rfl
  rw [hset]
  exact set_eq_map_of_nodup (nodup_nodes hf) hi _

theorem exists_step_enter_eq {c : Cluster} (hf : IsFabric c.stations) (hr : c.AtRest)
    {s : Submission} {n : ClusterNode} (hi : c.nodes[s.index]? = some n)
    (hc : s.command.payload.length < 2 ^ 32) :
    ∃ (out : Transit) (c' : Cluster), n.router.Sends s.command out ∧
      (c.enter s).departing = out ∧ (c.enter s).step = ⟨out.foldl arrive c'.nodes⟩ ∧ c'.AtRest ∧
      c'.stations = c.stations.map fun t =>
        if t.router.node = n.router.node then t.carryOut s.command else t := by
  have hn : n ∈ c.nodes := List.mem_of_getElem? hi
  have hnodes := nodes_enter hf hi hc
  have haddresses : (c.enter s).addresses = c.addresses := by
    rw [addresses, hnodes, addresses, List.map_map]
    refine List.map_congr_left fun m hm => ?_
    rw [Function.comp_apply]
    split
    · rename_i hsame
      rw [eq_of_node_eq hf hm hn hsame, ClusterNode.ip_accept]
    · rfl
  have hforwarding : (c.enter s).forwarding = c.forwarding := by
    rw [forwarding, haddresses, forwarding]
  obtain ⟨out, n', hsettled, hrest, hstation, hsends⟩ :=
    (hr n hn).exists_settled_accept_eq s.entry hc (mem_addresses_of_goesTo hf hn)
  -- only the node that the command is given to has anything to do in this step
  have hall : ∀ m ∈ c.nodes,
      (if m.router.node = n.router.node then n.accept c.forwarding s.entry s.command
        else m).settled c.forwarding =
      (if m.router.node = n.router.node then out else [],
        if m.router.node = n.router.node then n' else m) := by
    intro m hm
    split
    · exact hsettled
    · exact (hr m hm).settled_eq _
  have hdeparting : (c.enter s).departing = out := by
    rw [departing, hforwarding, hnodes, List.flatMap_map]
    refine (List.flatMap_congr fun m hm => ?_).trans
      (flatMap_ite_eq_of_nodup (nodup_nodes hf) hn out)
    rw [hall m hm]
  let c' : Cluster := ⟨c.nodes.map fun m => if m.router.node = n.router.node then n' else m⟩
  have hleft : ((c.enter s).nodes.map fun m => (m.settled c.forwarding).2) = c'.nodes := by
    rw [hnodes, List.map_map]
    refine List.map_congr_left fun m hm => ?_
    rw [Function.comp_apply, hall m hm]
  refine ⟨out, c', hsends, hdeparting, ?_, ?_, ?_⟩
  · rw [step_eq, hdeparting, hforwarding, hleft]
  · rw [AtRest, List.forall_mem_map]
    intro m hm
    split
    · exact hrest
    · exact hr m hm
  · rw [stations, stations, List.map_map, List.map_map]
    refine List.map_congr_left fun m hm => ?_
    rw [Function.comp_apply, Function.comp_apply]
    by_cases hsame : m.router.node = n.router.node
    · obtain rfl := eq_of_node_eq hf hm hn hsame
      rw [if_pos rfl]
      exact hstation.trans (if_pos rfl).symm
    · rw [if_neg hsame]
      exact (if_neg hsame).symm

theorem step_arrive {c : Cluster} (hf : IsFabric c.stations) (hr : c.AtRest) {command : Command}
    (hc : command.payload.length < 2 ^ 32) {frame : List UInt8} {address : IpAddress}
    (hdecode : decodeFramed frame = .ok command)
    (hhere : ∀ s ∈ c.stations, s.ip = address → s.router.StaysHere command)
    (hother : ∀ s ∈ c.stations, s.ip ≠ address → s.carryOut command = s) :
    (Cluster.mk (arrive c.nodes (address, frame))).departing = [] ∧
      (Cluster.mk (arrive c.nodes (address, frame))).step.AtRest ∧
      (Cluster.mk (arrive c.nodes (address, frame))).step.stations =
        c.stations.map (Station.carryOut command) := by
  let arrived : Cluster := ⟨arrive c.nodes (address, frame)⟩
  have hnodes : arrived.nodes =
      c.nodes.map fun n => if n.ip = address then n.receive frame else n :=
    arrive_eq_map (nodup_ips hf) (address, frame)
  -- the owner does not send the command on, so that it goes no further than here
  have hall : ∀ n ∈ c.nodes, ∃ n',
      (if n.ip = address then n.receive frame else n).settled arrived.forwarding = ([], n') ∧
        n'.AtRest ∧ n'.station = n.station.carryOut command := by
    intro n hn
    split
    · rename_i hip
      have hends : ∀ owner address, ¬ n.router.GoesTo command owner address :=
        fun owner address haway => haway.not_staysHere (hhere n.station (station_mem hn) hip)
      obtain ⟨out, n', hsettled, hrest, hstation, hsends⟩ :=
        (hr n hn).exists_settled_receive_eq hdecode hc
          fun owner address haway => absurd haway (hends owner address)
      cases hsends with
      | nothing _ => exact ⟨n', hsettled, hrest, hstation⟩
      | frame haway _ => exact absurd haway (hends _ _)
    · rename_i hip
      exact ⟨n, (hr n hn).settled_eq _, hr n hn, (hother n.station (station_mem hn) hip).symm⟩
  have hsilent : ∀ n ∈ arrived.nodes, (n.settled arrived.forwarding).1 = [] := by
    rw [hnodes, List.forall_mem_map]
    intro n hn
    obtain ⟨n', hsettled, -⟩ := hall n hn
    rw [hsettled]
  obtain ⟨hdeparting, hstep⟩ := step_of_silent hsilent
  rw [hnodes, List.map_map] at hstep
  refine ⟨hdeparting, ?_, ?_⟩
  · change arrived.step.AtRest
    rw [AtRest, hstep, List.forall_mem_map]
    intro n hn
    obtain ⟨n', hsettled, hrest, -⟩ := hall n hn
    rw [Function.comp_apply, hsettled]
    exact hrest
  · change arrived.step.stations = _
    rw [stations, hstep, stations, List.map_map, List.map_map]
    refine List.map_congr_left fun n hn => ?_
    obtain ⟨n', hsettled, -, hstation⟩ := hall n hn
    rw [Function.comp_apply, Function.comp_apply, hsettled]
    exact hstation

theorem not_isQuiet_arrive {c : Cluster} (hf : IsFabric c.stations) (hr : c.AtRest)
    {t : Station} (ht : t ∈ c.stations) (frame : List UInt8) :
    (Cluster.mk (arrive c.nodes (t.ip, frame))).isQuiet = false := by
  obtain ⟨n, hn, rfl⟩ := List.mem_map.mp ht
  obtain ⟨ring, pool, stats, hsubmit, hitems, -⟩ := (hr n hn).idle.exists_submit_eq frame
  have hwaits : (n.receive frame).dispatcher.ring.items = [frame] := by
    rw [ClusterNode.receive, hsubmit]
    exact hitems
  have hip : n.ip = n.station.ip := rfl
  rw [isQuiet, arrive_eq_map (nodup_ips hf), List.all_map, List.all_eq_false]
  refine ⟨n, hn, ?_⟩
  rw [Function.comp_apply, if_pos hip, Ring.isEmpty, hwaits, List.isEmpty_cons]
  exact Bool.false_ne_true

end Cluster

end NumaFabric
