import NumaFabric.Gpu.Device
import NumaFabric.Store.OrderedMap

namespace NumaFabric

inductive SchedulerError where
  | unknownGpu (uuid : String)
  | ownershipConflict (uuid : String) (owner : ClientId)
  | notOwner (uuid : String) (client : ClientId)
deriving DecidableEq

namespace SchedulerError

def kind : SchedulerError → String
  | unknownGpu _ => "UnknownGpu"
  | ownershipConflict _ _ => "OwnershipConflict"
  | notOwner _ _ => "NotOwner"

def message : SchedulerError → String
  | unknownGpu uuid => "unknown GPU " ++ uuid
  | ownershipConflict uuid owner => "GPU " ++ uuid ++ " is owned by " ++ owner
  | notOwner uuid client => "GPU " ++ uuid ++ " is not owned by " ++ client

end SchedulerError

structure Scheduler where
  /-- GPUs by their uuid. -/
  gpus : OrderedMap String Gpu
  /-- Only its owner releases a GPU. -/
  enforceOwner : Bool

namespace Scheduler

/-- A scheduler for some GPUs; the last of equal uuids counts. -/
def ofGpus (gpus : List Gpu) (enforceOwner : Bool) : Scheduler :=
  ⟨OrderedMap.ofList (gpus.map fun g => (g.uuid, g)), enforceOwner⟩

def setOwnership (s : Scheduler) (uuid : String) (g : Gpu) (o : Ownership) : Scheduler :=
  { s with gpus := s.gpus.insert uuid { g with ownership := o } }

def acquire (s : Scheduler) (uuid : String) (client : ClientId) :
    Except SchedulerError Scheduler :=
  match s.gpus.get? uuid with
  | none => .error (.unknownGpu uuid)
  | some g =>
    match g.ownership with
    | .free => .ok (s.setOwnership uuid g (.owned client))
    | .owned owner => if owner = client then .ok s else .error (.ownershipConflict uuid owner)

def release (s : Scheduler) (uuid : String) (client : ClientId) :
    Except SchedulerError Scheduler :=
  match s.gpus.get? uuid with
  | none => .error (.unknownGpu uuid)
  | some g =>
    match g.ownership with
    | .free => .ok s
    | .owned owner =>
      if s.enforceOwner ∧ owner ≠ client then .error (.notOwner uuid client)
      else .ok (s.setOwnership uuid g .free)

def ownedBy (client : ClientId) (g : Gpu) : Bool := g.ownership.owner? == some client

def releaseAll (s : Scheduler) (client : ClientId) : Nat × Scheduler :=
  ((s.gpus.values.filter (ownedBy client)).length,
    { s with gpus := s.gpus.mapValues fun _ g =>
      if ownedBy client g then { g with ownership := .free } else g })

def list (s : Scheduler) : List GpuInfo := s.gpus.values.map Gpu.info

def status (s : Scheduler) (uuid : String) : Except SchedulerError GpuStatus :=
  match s.gpus.get? uuid with
  | some g => .ok g.status
  | none => .error (.unknownGpu uuid)

def owner? (s : Scheduler) (uuid : String) : Option ClientId :=
  (s.gpus.get? uuid).bind fun g => g.ownership.owner?

def size (s : Scheduler) : Nat := s.gpus.size

end Scheduler

end NumaFabric
