import NumaFabric.Ingress.Dispatcher
import NumaFabric.Link.Connections

namespace NumaFabric

open NumaFabric.Wire

/-- Frames on their way, oldest first. -/
abbrev Transit := List (IpAddress × List UInt8)

abbrev ClusterRouter := Router (Connections × Transit)

structure ClusterNode where
  ip : IpAddress
  dispatcher : Dispatcher ClusterRouter

structure Cluster where
  nodes : List ClusterNode

def ClusterNode.takeTransit (n : ClusterNode) : Transit × ClusterNode :=
  let router := n.dispatcher.state
  (router.links.2,
    { n with dispatcher := { n.dispatcher with
      state := { router with links := (router.links.1, []) } } })

namespace Cluster

def wiring (addresses : List IpAddress) : Wiring Transit where
  make _ := .ok
  peerPort := 5555
  deliver peer data transit :=
    if addresses.contains peer then (.ok (), transit ++ [(peer, data)])
    else (.error .noPeer, transit)

def addresses (c : Cluster) : List IpAddress := c.nodes.map (·.ip)

def handler {φ : Type} (forward : Forward φ) : Handler (Router φ) := fun command router =>
  match router.route forward command with
  | (.ok _, router) => (.done, router)
  | (.error .delayOverflow, router) => (.brokeDown, router)
  | (.error _, router) => (.failed, router)

/-- A frame arrives at the first node with its address. -/
def arrive (nodes : List ClusterNode) (frame : IpAddress × List UInt8) : List ClusterNode :=
  match nodes with
  | [] => []
  | n :: rest =>
    if n.ip = frame.1 then { n with dispatcher := (n.dispatcher.submit frame.2).2 } :: rest
    else n :: arrive rest frame

/-- Lets every node settle once, and delivers what that sent. -/
def step (c : Cluster) : Cluster :=
  let forward := Connections.forward (wiring c.addresses)
  let settled := c.nodes.map fun n =>
    ({ n with dispatcher := n.dispatcher.settle (handler forward) } : ClusterNode).takeTransit
  ⟨(settled.flatMap (·.1)).foldl arrive (settled.map (·.2))⟩

def isQuiet (c : Cluster) : Bool := c.nodes.all fun n => n.dispatcher.ring.isEmpty

def settle : (fuel : Nat) → Cluster → Cluster
  | 0, c => c
  | fuel + 1, c => if c.isQuiet then c else settle fuel c.step

def submit (c : Cluster) (index : Nat) (data : List UInt8) : Bool × Cluster :=
  match c.nodes[index]? with
  | none => (false, c)
  | some n =>
    let (taken, dispatcher) := n.dispatcher.submit data
    (taken, ⟨c.nodes.set index { n with dispatcher }⟩)

end Cluster

end NumaFabric
