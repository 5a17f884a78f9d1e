import NumaFabric.Settings.Fabric

namespace NumaFabric

open NumaFabric.Settings NumaFabric.Text

inductive Flag where
  | config
  | nodeId
  | controlInterface
  | dataInterface
  | dataPort
  | routeTable
  | inventory
  | addressMap
  | rpcAddress
deriving DecidableEq

namespace Flag

def all : List Flag :=
  [config, nodeId, controlInterface, dataInterface, dataPort, routeTable, inventory, addressMap,
    rpcAddress]

def name : Flag → String
  | config => "config"
  | nodeId => "node-id"
  | controlInterface => "control-iface"
  | dataInterface => "data-iface"
  | dataPort => "data-port"
  | routeTable => "route-table"
  | inventory => "gpu-inventory"
  | addressMap => "address-map"
  | rpcAddress => "rpc-address"

def purpose : Flag → String
  | config => "TOML configuration file"
  | nodeId => "NUMA node this process serves; detected from the CPU when unset"
  | controlInterface => "Interface carrying the RPC control plane"
  | dataInterface => "Interface carrying fabric datagrams"
  | dataPort => "UDP port of the ingress receive loop"
  | routeTable => "Node id to IP route table (JSON)"
  | inventory => "GPU inventory: JSON, or lines between commas when the file ends in .csv"
  | addressMap => "Address range ownership (JSON)"
  | rpcAddress => "Listen address of the RPC server"

def ofName? (name : List Char) : Option Flag := all.find? fun f => f.name.toList = name

end Flag

/-- Why the arguments give no settings: a fault in them, or a wish to be told something else. -/
inductive FlagError where
  | help
  | version
  | unknownArgument
  /-- A value is missing, or empty where it names a file. -/
  | missingValue
  | badNumber
  | repeated
  | needlessValue
deriving DecidableEq

namespace FlagError

def kind : FlagError → String
  | help => "DisplayHelp"
  | version => "DisplayVersion"
  | unknownArgument => "UnknownArgument"
  | missingValue => "InvalidValue"
  | badNumber => "ValueValidation"
  | repeated => "ArgumentConflict"
  | needlessValue => "TooManyValues"

end FlagError

structure Flags where
  config : Option String
  nodeId : Option UInt32
  controlInterface : Option String
  dataInterface : Option String
  dataPort : Option UInt16
  routeTable : Option String
  inventory : Option String
  addressMap : Option String
  rpcAddress : Option String
deriving DecidableEq

namespace Flags

def none : Flags := ⟨.none, .none, .none, .none, .none, .none, .none, .none, .none⟩

def isSet (fs : Flags) : Flag → Bool
  | .config => fs.config.isSome
  | .nodeId => fs.nodeId.isSome
  | .controlInterface => fs.controlInterface.isSome
  | .dataInterface => fs.dataInterface.isSome
  | .dataPort => fs.dataPort.isSome
  | .routeTable => fs.routeTable.isSome
  | .inventory => fs.inventory.isSome
  | .addressMap => fs.addressMap.isSome
  | .rpcAddress => fs.rpcAddress.isSome

def path (value : String) : Except FlagError String :=
  if value.isEmpty then .error .missingValue else .ok value

def number (bound : Nat) (value : String) : Except FlagError Nat :=
  match signed? (UInt64.size / 2) value.toList with
  | some n => if 0 ≤ n ∧ n.toNat < bound then .ok n.toNat else .error .badNumber
  | .none => .error .badNumber

def assign (fs : Flags) (flag : Flag) (value : String) : Except FlagError Flags := do
  match flag with
  | .config => return { fs with config := ← path value }
  | .nodeId => return { fs with nodeId := some (UInt32.ofNat (← number UInt32.size value)) }
  | .controlInterface => return { fs with controlInterface := value }
  | .dataInterface => return { fs with dataInterface := value }
  | .dataPort => return { fs with dataPort := some (UInt16.ofNat (← number UInt16.size value)) }
  | .routeTable => return { fs with routeTable := ← path value }
  | .inventory => return { fs with inventory := ← path value }
  | .addressMap => return { fs with addressMap := ← path value }
  | .rpcAddress => return { fs with rpcAddress := value }

/-- Gives an option its value, unless it has one. -/
def set (fs : Flags) (flag : Flag) (value : String) : Except FlagError Flags :=
  if fs.isSet flag then .error .repeated else fs.assign flag value

/-- An option that waits for its value, or for the next option to come. -/
abbrev Pending := Option (Flag × Option String)

def settle (fs : Flags) : Pending → Except FlagError Flags
  | .none => .ok fs
  | some (_, .none) => .error .missingValue
  | some (flag, some value) => fs.set flag value

def long (fs : Flags) (pending : Pending) (arg : List Char) :
    Except FlagError (Flags × Pending) := do
  let name := arg.takeWhile (· != '=')
  let value := (splitOnce '=' arg).map fun p => String.ofList p.2
  match Flag.ofName? name with
  | some flag =>
    let fs ← fs.settle pending
    match value with
    | some value => return (← fs.set flag value, .none)
    | .none => return (fs, some (flag, .none))
  | .none =>
    if name = "help".toList ∨ name = "version".toList then
      if value.isSome then throw .needlessValue
      let _ ← fs.settle pending
      throw (if name = "help".toList then .help else .version)
    throw .unknownArgument

def short (fs : Flags) (pending : Pending) (letter : Char) :
    Except FlagError (Flags × Pending) := do
  if letter ≠ 'h' ∧ letter ≠ 'V' then throw .unknownArgument
  let _ ← fs.settle pending
  throw (if letter = 'h' then .help else .version)

def read (fs : Flags) : Pending → List String → Except FlagError Flags
  | pending, [] => fs.settle pending
  | pending, arg :: rest =>
    match arg.toList with
    | ['-', '-'] => if rest.isEmpty then fs.settle pending else .error .unknownArgument
    | '-' :: '-' :: name => do
      let (fs, pending) ← fs.long pending name
      read fs pending rest
    | '-' :: letter :: _ => do
      let (fs, pending) ← fs.short pending letter
      read fs pending rest
    | _ =>
      match pending with
      | some (flag, .none) => read fs (some (flag, some arg)) rest
      | _ => .error .unknownArgument

/-- The options that the arguments give. A variable names the file of settings if they do not. -/
def parse (args : List String) (vars : Variables) : Except FlagError Flags := do
  let fs ← none.read .none args
  match fs.config, vars.get? FabricConfig.fileVariable with
  | .none, some file => return { fs with config := ← path file }
  | _, _ => return fs

def apply (fs : Flags) (c : FabricConfig) : FabricConfig :=
  { c with
    nodeId := fs.nodeId <|> c.nodeId
    controlInterface := fs.controlInterface.getD c.controlInterface
    dataInterface := fs.dataInterface.getD c.dataInterface
    dataPort := fs.dataPort.getD c.dataPort
    routeTablePath := fs.routeTable.getD c.routeTablePath
    inventoryPath := fs.inventory <|> c.inventoryPath
    addressMapPath := fs.addressMap <|> c.addressMapPath
    rpcAddress := fs.rpcAddress.getD c.rpcAddress }

def usageLine (flag : Flag) : String :=
  "  --" ++ flag.name ++ " <" ++ flag.name.toUpper ++ ">\n      " ++ flag.purpose

def usage : String :=
  "Usage: numa-fabric [OPTIONS]\n\nOptions:\n" ++ "\n".intercalate (Flag.all.map usageLine ++
    ["  -h, --help\n      Print help", "  -V, --version\n      Print version"])

def version : String := "numa-fabric 0.1.0"

end Flags

end NumaFabric
