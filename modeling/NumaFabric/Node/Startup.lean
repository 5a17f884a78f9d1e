import NumaFabric.Cluster
import NumaFabric.Control.Service
import NumaFabric.Gpu.Inventory
import NumaFabric.Link.Datagram
import NumaFabric.Numa.Topology
import NumaFabric.Rpc.Server
import NumaFabric.Settings.Fabric
/-!
Bringing a node up. The checks come in a fixed order and the first that fails is told: interfaces,
route table, the node that is served, GPUs, the memory pool, the address map, the listener, and the
address for clients.
-/

namespace NumaFabric

open NumaFabric.Text

structure Surroundings where
  host : Host
  file : String → Option (List UInt8)
  topology : Option Topology
  affinity : List Nat
  modules : ModuleDirectory

namespace Surroundings

def text? (s : Surroundings) (path : String) : Option String := (s.file path).bind utf8Decode?

end Surroundings

inductive StartupError where
  | dataInterface (name : String)
  | controlInterface (name : String)
  | routeTable
  | noNode
  | inventory (path : String)
  | memoryPool
  | addressMap (path : String)
  | poolOverlap
  | listener
  | registration
  | queue
  | rpcAddress (address : String)
deriving DecidableEq

namespace StartupError

def message : StartupError → String
  | dataInterface name => "data-plane interface " ++ quote name
  | controlInterface name => "control-plane interface " ++ quote name
  | routeTable => "failed to load NUMA route table"
  | noNode => "cannot tell which NUMA node to serve; pin the process to one node or set node_id"
  | inventory path => "failed to load GPU inventory " ++ path
  | memoryPool => "failed to map local memory pool"
  | addressMap path => "failed to load address map " ++ path
  | poolOverlap => "local memory pool overlaps a configured address range"
  | listener => "failed to open the fabric listener"
  | registration => "failed to register the local memory pool"
  | queue => Ring.CapacityError.message .tooLarge
  | rpcAddress address => "failed to bind RPC server on " ++ address

end StartupError

def orElseFail {ε α : Type} (e : StartupError) : Except ε α → Except StartupError α
  | .ok a => .ok a
  | .error _ => .error e

/-- A map with the local pool added if no range has the first address of the pool. -/
def AddressMap.withPool (map : AddressMap) (base : Address) (size : UInt64) (node : NodeId) :
    Except AddressMapError AddressMap :=
  match map.owner? base with
  | some _ => .ok map
  | none => map.insertRange base size node

namespace FabricConfig

/-- The node that is served: the configured one, or the one of the CPUs the process may run on. On a
machine that does not tell its nodes it is node zero. -/
def servedNode (c : FabricConfig) (s : Surroundings) : Except StartupError NodeId :=
  match c.nodeId, s.topology with
  | some node, _ => .ok node
  | none, none => .ok 0
  | none, some t => orElseFail .noNode (t.nodeForCpus s.affinity)

def loadGpus (c : FabricConfig) (s : Surroundings) : Except StartupError (List Gpu) :=
  match c.inventoryPath with
  | none => .ok []
  | some path =>
    let name := String.ofList ((splitAll '/' path.toList).getLast?.getD [])
    orElseFail (.inventory path) (Inventory.load name (s.file path))

def buildAddressMap (c : FabricConfig) (s : Surroundings) (node : NodeId) :
    Except StartupError AddressMap := do
  let map : AddressMap ← match c.addressMapPath with
    | none => pure OrderedMap.empty
    | some path => orElseFail (.addressMap path) (AddressMap.load (s.text? path))
  orElseFail .poolOverlap (map.withPool c.memoryPoolBase c.memoryPoolBytes node)

end FabricConfig

abbrev NodeLinks := Connections × Transit

/-- A node that is up. Its ingress and its clients share the services; kernels are only counted. -/
structure Node where
  routeTablePath : String
  dataPort : UInt16
  listener : DatagramEndpoint
  sockets : SocketTable
  pool : RegistrationHandle
  dispatcher : Dispatcher (Service NodeLinks UInt64)

namespace Node

def outward (dataPort : UInt16) : Wiring Transit where
  make _ := .ok
  peerPort := dataPort
  deliver peer data transit := (.ok (), transit ++ [(peer, data)])

def backend (dataPort : UInt16) : Backend NodeLinks UInt64 :=
  ⟨Connections.forward (outward dataPort), dryRun⟩

def handler (dataPort : UInt16) : Handler (Service NodeLinks UInt64) := fun command services =>
  let (handled, router) := Cluster.handler (backend dataPort).forward command services.router
  (handled, { services with router })

def start (c : FabricConfig) (s : Surroundings) : Except StartupError Node := do
  let _ ← orElseFail (.dataInterface c.dataInterface) (s.host.interface c.dataInterface)
  let _ ← orElseFail (.controlInterface c.controlInterface) (s.host.interface c.controlInterface)
  let routes ← orElseFail .routeTable (RouteTable.load (s.text? c.routeTablePath))
  let node ← c.servedNode s
  let gpus ← c.loadGpus s
  let (region, space) ←
    orElseFail .memoryPool (AddressSpace.map .empty c.memoryPoolBase c.memoryPoolBytes)
  let map ← c.buildAddressMap s node
  let (listener, sockets) ← orElseFail .listener
    (SocketTable.empty.init s.host (.new c.maxDatagramSize.toNat) c.dataInterface none)
  let (pool, listener) ← orElseFail .registration (listener.register region)
  let router : Router NodeLinks := ⟨node, map, routes, .of space, .localMemory, (.empty, [])⟩
  let services : Service NodeLinks UInt64 :=
    ⟨.ofGpus gpus c.enforceReleaseOwner, router, .new c.defaultModule, s.modules, 0⟩
  let dispatcher ← orElseFail .queue (Dispatcher.start c.dispatcherConfig services)
  match SocketAddress.parse? c.rpcAddress.toList with
  | none => throw (.rpcAddress c.rpcAddress)
  | some _ => return ⟨c.routeTablePath, c.dataPort, listener, sockets, pool, dispatcher⟩

end Node

end NumaFabric
