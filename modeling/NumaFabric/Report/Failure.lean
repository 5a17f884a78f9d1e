import NumaFabric.Control.Service
import NumaFabric.Gpu.Inventory
import NumaFabric.Ingress.Dispatcher
import NumaFabric.Node.Startup
import NumaFabric.Rpc.Client
import NumaFabric.Settings.CommandLine

namespace NumaFabric

open NumaFabric.Wire

class Reported (ε : Type) where
  report : ε → Json
  /-- The words of a breakdown, after which there is no answer. -/
  breakdown? : ε → Option String := fun _ => none

export Reported (report)

def failure (kind : String) (message : Option String)
    (more : List (String × Json) := []) : Json :=
  .obj (("error", .str kind) :: (message.toList.map fun m => ("message", .str m)) ++ more)

instance : Reported CodecError where
  report e := failure e.kind e.message [("class", .str e.errorClass.text)]

instance : Reported MemoryError where
  report e := failure e.kind e.message [("retryable", .bool e.isTransient)]

instance : Reported AddressSpace.MapError where
  report
    | .refused e => report e
    | .tooLarge => failure "Breakdown" AddressSpace.tooLargeMessage
  breakdown?
    | .refused _ => none
    | .tooLarge => AddressSpace.tooLargeMessage

instance : Reported Ring.CapacityError where
  report e := failure "Breakdown" e.message
  breakdown? e := e.message

instance : Reported (Ring.PushError Json) where
  report
    | .full item => failure "Full" none [("item", item)]
    | .closed item => failure "Closed" none [("item", item)]

instance : Reported AddressMapError where
  report e := failure e.kind e.message?

instance : Reported TopologyError where
  report e := failure e.kind e.message?
  breakdown?
    | .breakdown words => words
    | _ => none

instance : Reported RouteTableError where
  report e := failure e.kind e.message?

instance : Reported TransferError where
  report e := failure e.kind e.message?

instance : Reported RouteError where
  report e := failure e.kind e.message [("cause", Json.ofOption .str e.inner?)]
  breakdown? e := (ServiceError.route e).breakdown?

instance : Reported MissingPart where
  report e := failure "builder" e.message

instance : Reported InventoryError where
  report e := failure e.kind e.message?

instance : Reported SchedulerError where
  report e := failure e.kind e.message

/-- Why a module could not be loaded is in words of the machine, so only its name is told. -/
instance : Reported CacheError where
  report
    | .moduleLoad module reason =>
      failure (CacheError.moduleLoad module reason).kind none [("module", .str module)]
    | e => failure e.kind e.message

instance : Reported LaunchError where
  report
    | .cache e => failure (LaunchError.cache e).kind none [("cause", report e)]
    | e => failure e.kind e.message
  breakdown? e := (ServiceError.launch e).breakdown?

/-- Clients see the code of a service's error and not its kind. -/
instance : Reported ServiceError where
  report e := failure e.code e.message
  breakdown? := ServiceError.breakdown?

instance : Reported Rpc.FrameError where
  report e := failure e.kind none

instance : Reported Rpc.ClientError where
  report
    | .remote code message =>
      failure (Rpc.ClientError.remote code message).kind message [("code", .str code)]
    | .unexpected method =>
      failure (Rpc.ClientError.unexpected method).kind none [("method", .str method)]
    | .connectionClosed =>
      failure Rpc.ClientError.connectionClosed.kind Rpc.ClientError.closedMessage
    | e => failure e.kind none

/-- A fault in the settings is told by the keys that lead to it, and numbers out of their ranges by
the rule that they break. -/
instance : Reported ConfigError where
  report
    | .load path => failure (ConfigError.load path).kind (ConfigError.load path).message
        [("key", .str path.text)]
    | .outOfRange keys => failure (ConfigError.outOfRange keys).kind none
        [("fields", Json.ofList (fun key => .str (key ++ ":range")) keys)]
    | e => failure e.kind e.message
  breakdown?
    | .splitVariable cut => cut.message
    | _ => none

instance : Reported FlagError where
  report e := failure e.kind none

instance {α : Type} : Reported (Retry.Outcome String α) where
  report o :=
    let (kind, last) := match o with
      | .ok _ | .delayOverflow _ => ("", "")
      | .exhausted _ e => ("Exhausted", e)
      | .permanent _ e => ("Permanent", e)
    failure kind (o.message? id) [("attempts", .ofNat o.attempts), ("inner", .str last)]
  breakdown?
    | .delayOverflow _ => Retry.delayOverflowMessage
    | _ => none

instance : Reported StartupError where
  report e := failure "startup" e.message

end NumaFabric
