import NumaFabric.Link.Registration

namespace NumaFabric

inductive Phase where
  | created
  | ready
  | closed
deriving DecidableEq

namespace Phase

def ensureReady : Phase → Except TransferError Unit
  | ready => .ok ()
  | created => .error .notInitialized
  | closed => .error .closed

def init : Phase → Except TransferError Phase
  | created => .ok ready
  | ready => .error .alreadyInitialized
  | closed => .error .closed

end Phase

/-- One endpoint; others know it by its number. -/
structure LoopbackEndpoint where
  phase : Phase
  inbox : List (List UInt8)
  peer : Option Nat
  registrations : RegistrationTable
  destroyed : Bool

namespace LoopbackEndpoint

def new : LoopbackEndpoint := ⟨.created, [], none, .empty, false⟩

end LoopbackEndpoint

structure LoopbackNet where
  endpoints : List LoopbackEndpoint

namespace LoopbackNet

inductive Received where
  | frame (data : List UInt8)
  | pending

def endpoint? (net : LoopbackNet) (n : Nat) : Option LoopbackEndpoint :=
  net.endpoints[n]?.filter fun e => !e.destroyed

def set (net : LoopbackNet) (n : Nat) (e : LoopbackEndpoint) : LoopbackNet :=
  ⟨net.endpoints.set n e⟩

def pair (wired : Bool) : LoopbackNet :=
  let towards (n : Nat) : LoopbackEndpoint :=
    { LoopbackEndpoint.new with peer := if wired then some n else none }
  ⟨[towards 1, towards 0]⟩

def init (net : LoopbackNet) (n : Nat) (e : LoopbackEndpoint) :
    Except TransferError LoopbackNet := do
  return net.set n { e with phase := ← e.phase.init }

def wire (net : LoopbackNet) (n : Nat) (e : LoopbackEndpoint) (peer : Nat) : LoopbackNet :=
  net.set n { e with peer := some peer }

def deliver (net : LoopbackNet) (target : Nat) (data : List UInt8) :
    Except TransferError LoopbackNet :=
  match net.endpoint? target with
  | some e => .ok (net.set target { e with inbox := e.inbox ++ [data] })
  | none => .error .closed

def send (net : LoopbackNet) (e : LoopbackEndpoint) (data : List UInt8) :
    Except TransferError LoopbackNet := do
  e.phase.ensureReady
  match e.peer with
  | some target => net.deliver target data
  | none => throw .noPeer

def receive (net : LoopbackNet) (n : Nat) (e : LoopbackEndpoint) :
    Except TransferError (Received × LoopbackNet) := do
  e.phase.ensureReady
  match e.inbox with
  | data :: rest => return (.frame data, net.set n { e with inbox := rest })
  | [] => return (.pending, net)

def register (net : LoopbackNet) (n : Nat) (e : LoopbackEndpoint) (region : Region) :
    Except TransferError (RegistrationHandle × LoopbackNet) := do
  e.phase.ensureReady
  let (handle, registrations) ← e.registrations.register region
  return (handle, net.set n { e with registrations })

def unregister (net : LoopbackNet) (n : Nat) (e : LoopbackEndpoint) (handle : RegistrationHandle) :
    Except TransferError LoopbackNet := do
  return net.set n { e with registrations := ← e.registrations.unregister handle }

/-- Closes an endpoint; closing it again changes nothing. -/
def close (net : LoopbackNet) (n : Nat) (e : LoopbackEndpoint) : LoopbackNet :=
  if e.phase = .closed then net
  else
    net.set n { e with
      phase := .closed
      peer := none
      registrations := e.registrations.clear.2 }

def destroy (net : LoopbackNet) (n : Nat) (e : LoopbackEndpoint) : LoopbackNet :=
  net.set n { e with destroyed := true, inbox := [] }

end LoopbackNet

end NumaFabric
