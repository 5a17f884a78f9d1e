import NumaFabric.Ingress.Dispatcher
import NumaFabric.Link.TransportConfig
import NumaFabric.Retry.Duration
import NumaFabric.Settings.Environment
import NumaFabric.Settings.Reader
import NumaFabric.Settings.Toml.Document
/-!
The settings of a node. They come in layers: what is built in, a TOML file, two variables that name
interfaces, and variables that begin with `AIT_`, the later over the earlier. All layers are read
together and then checked against the ranges of the numbers.
-/

namespace NumaFabric

open NumaFabric.Settings

structure FabricConfig where
  /-- The node that is served; the one that the process is pinned to if there is none here. -/
  nodeId : Option UInt32
  controlInterface : String
  dataInterface : String
  dataPort : UInt16
  rpcAddress : String
  routeTablePath : String
  inventoryPath : Option String
  addressMapPath : Option String
  ingressWorkers : UInt64
  queueCapacity : UInt64
  maxDatagramSize : UInt64
  memoryPoolBytes : UInt64
  memoryPoolBase : UInt64
  transport : TransportSettings
  enforceReleaseOwner : Bool
  moduleDirectory : String
  defaultModule : String
  /-- Seconds that shutdown waits for work under way. -/
  shutdownTimeout : UInt64
deriving DecidableEq

instance : Inhabited FabricConfig where
  default :=
    { nodeId := none
      controlInterface := ""
      dataInterface := ""
      dataPort := 5555
      rpcAddress := "0.0.0.0:7070"
      routeTablePath := "config/numa_routes.json"
      inventoryPath := none
      addressMapPath := none
      ingressWorkers := 4
      queueCapacity := 1024
      maxDatagramSize := 4096
      memoryPoolBytes := 64 * 1024 * 1024
      memoryPoolBase := 0
      transport := default
      enforceReleaseOwner := false
      moduleDirectory := "kernels"
      defaultModule := "default"
      shutdownTimeout := 1 }

inductive ConfigError where
  /-- A layer cannot be read, or a value under these keys does not fit. -/
  | load (path : KeyPath)
  /-- Numbers that are out of their ranges, by their keys in increasing order. -/
  | outOfRange (keys : List String)
  /-- The text of a variable is cut inside a character, and nothing else is read. -/
  | splitVariable (cut : Text.SplitCharacter)
deriving DecidableEq

namespace ConfigError

def kind : ConfigError → String
  | load _ => "Load"
  | outOfRange _ => "Validation"
  | splitVariable _ => "Breakdown"

def message : ConfigError → String
  | load _ => "failed to load fabric configuration"
  | outOfRange _ => "invalid fabric configuration"
  | splitVariable cut => cut.message

end ConfigError

namespace FabricConfig

def transportLayer (s : TransportSettings) : Value :=
  .table [("port", .int s.port.toNat), ("max_send_wr", .int s.maxSends.toNat),
    ("max_recv_wr", .int s.maxReceives.toNat), ("max_inline", .int s.maxInline.toNat)]

def layer (c : FabricConfig) : Fields :=
  (c.nodeId.toList.map fun n => ("node_id", .int n.toNat)) ++
  (c.inventoryPath.toList.map fun p => ("gpu_inventory_path", .text p)) ++
  (c.addressMapPath.toList.map fun p => ("address_map_path", .text p)) ++
  [("control_iface", .text c.controlInterface), ("data_iface", .text c.dataInterface),
    ("data_port", .int c.dataPort.toNat), ("rpc_address", .text c.rpcAddress),
    ("route_table_path", .text c.routeTablePath),
    ("ingress_workers", .int c.ingressWorkers.toNat),
    ("queue_capacity", .int c.queueCapacity.toNat),
    ("max_datagram_size", .int c.maxDatagramSize.toNat),
    ("memory_pool_bytes", .int c.memoryPoolBytes.toNat),
    ("memory_pool_base", .int c.memoryPoolBase.toNat), ("transport", transportLayer c.transport),
    ("enforce_release_owner", .bool c.enforceReleaseOwner),
    ("kernel_module_dir", .text c.moduleDirectory), ("default_module", .text c.defaultModule),
    ("graceful_shutdown_timeout", .int c.shutdownTimeout.toNat)]

/-- An item of a list, at fault by its place if it does not fit. -/
def item {α : Type} (items : List Value) (index : Nat) (read : Read α) : Except KeyPath α :=
  match items[index]? with
  | none => .error []
  | some v => under (toString index) read v

/-- Transport settings in a table, or in a list in their order. In a table all values that are there
are read, in the order of their keys, before one is missed. -/
def readTransport : Read TransportSettings
  | .table entries => do
    let fields : Fields := entries
    let maxInline ← fields.optional "max_inline" uint32
    let maxReceives ← fields.optional "max_recv_wr" uint32
    let maxSends ← fields.optional "max_send_wr" uint32
    let port ← fields.optional "port" uint16
    match port, maxSends, maxReceives, maxInline with
    | some port, some maxSends, some maxReceives, some maxInline =>
      return ⟨port, maxSends, maxReceives, maxInline⟩
    | _, _, _, _ => throw []
  | .list items => do
    return ⟨← item items 0 uint16, ← item items 1 uint32, ← item items 2 uint32,
      ← item items 3 uint32⟩
  | _ => .error []

def read (fields : Fields) : Except KeyPath FabricConfig := do
  let addressMapPath ← fields.optional "address_map_path" string
  let controlInterface ← fields.required "control_iface" string
  let dataInterface ← fields.required "data_iface" string
  let dataPort ← fields.required "data_port" uint16
  let defaultModule ← fields.required "default_module" string
  let enforceReleaseOwner ← fields.required "enforce_release_owner" boolean
  let inventoryPath ← fields.optional "gpu_inventory_path" string
  let shutdownTimeout ← fields.required "graceful_shutdown_timeout" uint64
  let ingressWorkers ← fields.required "ingress_workers" uint64
  let moduleDirectory ← fields.required "kernel_module_dir" string
  let maxDatagramSize ← fields.required "max_datagram_size" uint64
  let memoryPoolBase ← fields.required "memory_pool_base" uint64
  let memoryPoolBytes ← fields.required "memory_pool_bytes" uint64
  let nodeId ← fields.optional "node_id" uint32
  let queueCapacity ← fields.required "queue_capacity" uint64
  let routeTablePath ← fields.required "route_table_path" string
  let rpcAddress ← fields.required "rpc_address" string
  let transport ← fields.required "transport" readTransport
  return ⟨nodeId, controlInterface, dataInterface, dataPort, rpcAddress, routeTablePath,
    inventoryPath, addressMapPath, ingressWorkers, queueCapacity, maxDatagramSize,
    memoryPoolBytes, memoryPoolBase, transport, enforceReleaseOwner, moduleDirectory,
    defaultModule, shutdownTimeout⟩

def maxWorkers : Nat := 256

/-- The least size of a datagram: a header and the checksum after it. -/
def minDatagramSize : Nat := 36

structure Bounded where
  key : String
  value : Nat
  least : Nat
  most : Nat

def bounded (c : FabricConfig) : List Bounded :=
  [⟨"data_port", c.dataPort.toNat, 1, UInt16.size⟩,
    ⟨"ingress_workers", c.ingressWorkers.toNat, 1, maxWorkers⟩,
    ⟨"max_datagram_size", c.maxDatagramSize.toNat, minDatagramSize, UInt64.size⟩,
    ⟨"memory_pool_bytes", c.memoryPoolBytes.toNat, 1, UInt64.size⟩,
    ⟨"queue_capacity", c.queueCapacity.toNat, 1, UInt64.size⟩,
    ⟨"transport.max_recv_wr", c.transport.maxReceives.toNat, 1, UInt32.size⟩,
    ⟨"transport.max_send_wr", c.transport.maxSends.toNat, 1, UInt32.size⟩]

def outOfRange (c : FabricConfig) : List String :=
  (c.bounded.filter fun b => b.value < b.least || b.most < b.value).map (·.key)

def validate (c : FabricConfig) : Except ConfigError FabricConfig :=
  match c.outOfRange with
  | [] => .ok c
  | keys => .error (.outOfRange keys)

def fileVariable : String := "AIT_CONFIG_PATH"

/-- The settings of the variables, those with a common beginning over the two that name
interfaces. -/
def variableLayers (vars : Variables) : Except ConfigError (List Fields) :=
  (do return [← vars.only ["CONTROL_IFACE", "DATA_IFACE"], ← vars.prefixed "AIT_"]).mapError
    ConfigError.splitVariable

/-- The configuration from all layers; a file that is not there adds nothing. All variables are read
even where the file cannot be. -/
def load (file : Option String) (vars : Variables) : Except ConfigError FabricConfig := do
  let upper ← variableLayers vars
  let fields : Fields ← match file.map Toml.parse? with
    | none => pure []
    | some (some fields) => pure fields
    | some none => throw (.load [])
  let built : Fields := (default : FabricConfig).layer
  match read ((fields :: upper).foldl Fields.over built) with
  | .ok c => c.validate
  | .error path => throw (.load path)

def transportConfig (c : FabricConfig) : TransportConfig := .of c.dataInterface c.transport

def dispatcherConfig (c : FabricConfig) : DispatcherConfig :=
  ⟨c.ingressWorkers.toNat, c.queueCapacity.toNat, c.maxDatagramSize.toNat⟩

def shutdownWait (c : FabricConfig) : Duration := Duration.ofSeconds c.shutdownTimeout.toNat

end FabricConfig

end NumaFabric
