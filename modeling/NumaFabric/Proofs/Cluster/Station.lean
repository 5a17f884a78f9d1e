import NumaFabric.Proofs.Ingress.Settle
import NumaFabric.Proofs.Link.Connected
import NumaFabric.Proofs.Routing.CarryOut

namespace NumaFabric

open NumaFabric.Wire

/-- A node without its ingress and its links. -/
structure Station where
  ip : IpAddress
  router : Router Unit

namespace Station

def carryOut (c : Command) (s : Station) : Station := { s with router := s.router.carryOut c }

def carryAll (commands : List Command) (s : Station) : Station :=
  commands.foldl (fun s c => s.carryOut c) s

end Station

/-- What a router sends when it routes a command: nothing, or one frame with that command. -/
inductive Router.Sends {φ : Type} (r : Router φ) (c : Command) : Transit → Prop
  | nothing : (∀ owner address, ¬ r.GoesTo c owner address) → Router.Sends r c []
  | frame {owner : NodeId} {address : IpAddress} {frame : List UInt8} :
      r.GoesTo c owner address → decodeFramed frame = .ok c.withFreshChecksum →
        Router.Sends r c [(address, frame)]

theorem Router.sends_of_withFreshChecksum {φ : Type} {r : Router φ} {c : Command} {out : Transit}
    (h : r.Sends c.withFreshChecksum out) : r.Sends c out := by
  cases h with
  | nothing hends => exact .nothing hends
  | frame haway hdecode => exact .frame haway hdecode

theorem Router.exists_links_route_eq {r : ClusterRouter} (hsent : r.links.2 = [])
    (hconnected : r.links.1.Connected) {c : Command} (hc : c.payload.length < 2 ^ 32)
    {addresses : List IpAddress}
    (hroutes : ∀ owner address, r.GoesTo c owner address → address ∈ addresses) :
    ∃ connections out,
      (r.route (Connections.forward (Cluster.wiring addresses)) c).2.links = (connections, out) ∧
        connections.Connected ∧ r.Sends c out := by
  by_cases haway : ∃ owner address, r.GoesTo c owner address
  · obtain ⟨owner, address, haway⟩ := haway
    obtain ⟨frame, hframe, hdecode⟩ := exists_encodeFramed_withFreshChecksum_eq hc
    obtain ⟨connections, hready, hforward⟩ :=
      Connections.exists_forward_eq hconnected (hroutes owner address haway) owner hframe r.links.2
    refine ⟨connections, [(address, frame)], ?_, hready, .frame haway hdecode⟩
    have hlinks : r.links = (r.links.1, []) := by rw [← hsent]
    rw [hsent, List.nil_append] at hforward
    rw [route_of_goesTo _ haway, hlinks, hforward]
  · have hends : ∀ owner address, ¬ r.GoesTo c owner address :=
      fun owner address hgoes => haway ⟨owner, address, hgoes⟩
    refine ⟨r.links.1, [], ?_, hconnected, .nothing hends⟩
    rw [links_route _ hends, ← hsent]

inductive Entry where
  | call
  | datagram
deriving DecidableEq

namespace ClusterNode

def router (n : ClusterNode) : ClusterRouter := n.dispatcher.state

def memory (n : ClusterNode) : LocalMemory := n.router.memory

def station (n : ClusterNode) : Station := ⟨n.ip, n.router.unlinked⟩

def withRouter (n : ClusterNode) (r : ClusterRouter) : ClusterNode :=
  { n with dispatcher := { n.dispatcher with state := r } }

def receive (n : ClusterNode) (datagram : List UInt8) : ClusterNode :=
  { n with dispatcher := (n.dispatcher.submit datagram).2 }

/-- What a node sends while it settles, and the node afterwards. -/
def settled (forward : Forward (Connections × Transit)) (n : ClusterNode) :
    Transit × ClusterNode :=
  ({ n with dispatcher := n.dispatcher.settle (Cluster.handler forward) } : ClusterNode).takeTransit

/-- Nothing is left to do at the node, and it is ready for more. -/
structure AtRest (n : ClusterNode) : Prop where
  idle : n.dispatcher.Idle
  nothing_sent : n.router.links.2 = []
  connected : n.router.links.1.Connected

theorem AtRest.settled_eq {n : ClusterNode} (h : n.AtRest)
    (forward : Forward (Connections × Transit)) : n.settled forward = ([], n) := by
  have hlinks : (n.router.links.1, ([] : Transit)) = n.router.links := by rw [← h.nothing_sent]
  rw [settled, h.idle.settle_eq]
  change (n.router.links.2, n.withRouter { n.router with links := (n.router.links.1, []) }) = _
  rw [h.nothing_sent, hlinks]
  rfl

theorem AtRest.isEmpty_ring {n : ClusterNode} (h : n.AtRest) :
    n.dispatcher.ring.isEmpty = true := by
  rw [Ring.isEmpty, h.idle.nothing_waits]
  rfl

theorem state_handler {φ : Type} (forward : Forward φ) (c : Command) (r : Router φ) :
    (Cluster.handler forward c r).2 = (r.route forward c).2 := by
  unfold Cluster.handler
  split <;> rename_i hroute <;> rw [hroute]

theorem AtRest.exists_takeTransit_eq {n m : ClusterNode} (h : n.AtRest) (hidle : m.dispatcher.Idle)
    (hip : m.ip = n.ip) {addresses : List IpAddress} {c : Command}
    (hrouter : m.router =
      (n.router.route (Connections.forward (Cluster.wiring addresses)) c).2)
    (hc : c.payload.length < 2 ^ 32)
    (hroutes : ∀ owner address, n.router.GoesTo c owner address → address ∈ addresses) :
    ∃ out n', m.takeTransit = (out, n') ∧ n'.AtRest ∧ n'.station = n.station.carryOut c ∧
      n.router.Sends c out := by
  obtain ⟨connections, out, hlinks, hconnected, hsends⟩ :=
    Router.exists_links_route_eq h.nothing_sent h.connected hc hroutes
  rw [← hrouter] at hlinks
  refine ⟨out, m.withRouter { m.router with links := (connections, []) }, ?_,
    ⟨hidle.withState _, rfl, hconnected⟩, ?_, hsends⟩
  · change (m.router.links.2,
      m.withRouter { m.router with links := (m.router.links.1, []) }) = _
    rw [hlinks]
  · have hunlinked : m.router.unlinked = n.router.unlinked.carryOut c := by
      rw [hrouter, Router.unlinked_route]
    calc
      _ = Station.mk m.ip m.router.unlinked := rfl
      _ = n.station.carryOut c := by rw [hip, hunlinked]; rfl

theorem AtRest.exists_settled_receive_eq {n : ClusterNode} (h : n.AtRest)
    {addresses : List IpAddress} {frame : List UInt8} {c : Command}
    (hdecode : decodeFramed frame = .ok c) (hc : c.payload.length < 2 ^ 32)
    (hroutes : ∀ owner address, n.router.GoesTo c owner address → address ∈ addresses) :
    ∃ out n',
      (n.receive frame).settled (Connections.forward (Cluster.wiring addresses)) = (out, n') ∧
        n'.AtRest ∧ n'.station = n.station.carryOut c ∧ n.router.Sends c out := by
  obtain ⟨hidle, hstate⟩ :=
    h.idle.settle_submit (Cluster.handler (Connections.forward (Cluster.wiring addresses))) hdecode
  rw [state_handler] at hstate
  exact h.exists_takeTransit_eq
    (m := ⟨n.ip, (n.dispatcher.submit frame).2.settle (Cluster.handler _)⟩) hidle rfl hstate hc
    hroutes

def accept (forward : Forward (Connections × Transit)) (entry : Entry) (c : Command)
    (n : ClusterNode) : ClusterNode :=
  match entry with
  | .call => n.withRouter (n.router.route forward c).2
  | .datagram =>
    match encodeFramed c.withFreshChecksum with
    | .ok frame => n.receive frame
    | .error _ => n

theorem ip_accept (forward : Forward (Connections × Transit)) (entry : Entry) (c : Command)
    (n : ClusterNode) : (n.accept forward entry c).ip = n.ip := by
  unfold accept
  split
  · rfl
  · split <;> rfl

/-- Whichever way a command comes to a node, it is routed there. -/
theorem AtRest.exists_settled_accept_eq {n : ClusterNode} (h : n.AtRest)
    {addresses : List IpAddress} (entry : Entry) {c : Command} (hc : c.payload.length < 2 ^ 32)
    (hroutes : ∀ owner address, n.router.GoesTo c owner address → address ∈ addresses) :
    ∃ out n',
      (n.accept (Connections.forward (Cluster.wiring addresses)) entry c).settled
          (Connections.forward (Cluster.wiring addresses)) = (out, n') ∧
        n'.AtRest ∧ n'.station = n.station.carryOut c ∧ n.router.Sends c out := by
  cases entry with
  | call =>
      have hidle := h.idle.withState
        (n.router.route (Connections.forward (Cluster.wiring addresses)) c).2
      rw [settled, accept, withRouter, hidle.settle_eq]
      exact h.exists_takeTransit_eq (m := n.withRouter _) hidle rfl rfl hc hroutes
  | datagram =>
      obtain ⟨frame, hframe, hdecode⟩ := exists_encodeFramed_withFreshChecksum_eq hc
      have haccept : n.accept (Connections.forward (Cluster.wiring addresses)) .datagram c =
          n.receive frame := by
        simp only [accept, hframe]
      obtain ⟨out, n', hsettled, hrest, hstation, hsends⟩ :=
        h.exists_settled_receive_eq hdecode hc hroutes
      rw [haccept]
      exact ⟨out, n', hsettled, hrest, hstation, Router.sends_of_withFreshChecksum hsends⟩

end ClusterNode

end NumaFabric
