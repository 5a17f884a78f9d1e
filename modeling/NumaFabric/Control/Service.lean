import NumaFabric.Gpu.Scheduler
import NumaFabric.Kernel.Recorder
import NumaFabric.Routing.Router

namespace NumaFabric

open NumaFabric.Wire

inductive ServiceError where
  | scheduler (cause : SchedulerError)
  | codec (cause : CodecError)
  | route (cause : RouteError)
  | launch (cause : LaunchError)
deriving DecidableEq

namespace ServiceError

def code : ServiceError → String
  | scheduler (.unknownGpu _) => "unknown_gpu"
  | scheduler (.ownershipConflict _ _) => "ownership_conflict"
  | scheduler (.notOwner _ _) => "not_owner"
  | codec _ => "bad_command"
  | route (.routeNotFound _) => "route_not_found"
  | route (.transfer _ _) => "transfer_failed"
  | route _ => "memory_fault"
  | launch (.cache _) => "cache_load"
  | launch (.invalid _) => "invalid_launch"
  | launch (.execution _ _) => "launch_failed"
  | launch (.breakdown _) => "launch_failed"

def message : ServiceError → String
  | scheduler e => e.message
  | codec e => "rejected command: " ++ e.message
  | route e => e.message
  | launch e => e.message

def breakdown? : ServiceError → Option String
  | route .delayOverflow => some Retry.delayOverflowMessage
  | launch (.breakdown words) => some words
  | _ => none

end ServiceError

/-- Where a command of a client was carried out. -/
structure CommandResponse where
  streamHandle : UInt64
  node : UInt32
  forwardedTo : Option IpAddress
deriving DecidableEq

namespace CommandResponse

def of (streamHandle : UInt64) : RouteOutcome → CommandResponse
  | .here node => ⟨streamHandle, node, none⟩
  | .forwarded node address => ⟨streamHandle, node, some address⟩

def fields (r : CommandResponse) : List (String × Json) :=
  [("stream_handle", .ofNat r.streamHandle.toNat), ("node", .ofNat r.node.toNat)] ++
    r.forwardedTo.toList.map fun ip => ("forwarded_to", .str ip.text)

def toJson (r : CommandResponse) : Json := .obj r.fields

def address? (j : Json) : Option IpAddress := j.toString?.bind fun s => IpAddress.parse? s.toList

def ofJson? (j : Json) : Option CommandResponse := do
  let r ← j.record? ["stream_handle", "node", "forwarded_to"]
  return ⟨← r.required "stream_handle" Json.toUInt64?, ← r.required "node" Json.toUInt32?,
    ← r.defaulted "forwarded_to" none (Json.toOption? address?)⟩

end CommandResponse

/-- What the services of a node rest on: links to other nodes with state `lk`, and something that
runs kernels with state `dev`. -/
structure Backend (lk dev : Type) where
  forward : Forward lk
  run : Executor dev DeviceFunction

structure Service (lk dev : Type) where
  scheduler : Scheduler
  router : Router lk
  launcher : Launcher DeviceModule DeviceFunction
  modules : ModuleDirectory
  device : dev

namespace Service

variable {lk dev : Type}

def acquireGpu (s : Service lk dev) (client : ClientId) (uuid : String) :
    Except ServiceError Unit × Service lk dev :=
  match s.scheduler.acquire uuid client with
  | .ok scheduler => (.ok (), { s with scheduler })
  | .error e => (.error (.scheduler e), s)

def releaseGpu (s : Service lk dev) (client : ClientId) (uuid : String) :
    Except ServiceError Unit × Service lk dev :=
  match s.scheduler.release uuid client with
  | .ok scheduler => (.ok (), { s with scheduler })
  | .error e => (.error (.scheduler e), s)

def gpuStatus (s : Service lk dev) (uuid : String) : Except ServiceError GpuStatus :=
  (s.scheduler.status uuid).mapError .scheduler

def runCommand (b : Backend lk dev) (s : Service lk dev) (frame : List UInt8)
    (streamHandle : UInt64) : Except ServiceError CommandResponse × Service lk dev :=
  match decodeFramed frame with
  | .error e => (.error (.codec e), s)
  | .ok c =>
    match s.router.route b.forward c with
    | (.ok outcome, router) => (.ok (.of streamHandle outcome), { s with router })
    | (.error e, router) => (.error (.route e), { s with router })

def launchKernel (b : Backend lk dev) (s : Service lk dev) (k : KernelLaunch) :
    Except ServiceError Unit × Service lk dev :=
  let (r, launcher, modules, device) :=
    s.launcher.launch ModuleDirectory.loader b.run k s.modules s.device
  (r.mapError .launch, { s with launcher, modules, device })

end Service

end NumaFabric
