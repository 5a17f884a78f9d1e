import NumaFabric.Link.Registration
import NumaFabric.Net.Host

namespace NumaFabric

structure Socket where
  ip : IpAddress
  isOpen : Bool
  queue : List (List UInt8)

structure DatagramBinding where
  socket : Nat
  peer : Option Nat

structure DatagramEndpoint where
  binding : Option DatagramBinding
  registrations : RegistrationTable
  maxDatagramSize : Nat

namespace DatagramEndpoint

def new (maxDatagramSize : Nat) : DatagramEndpoint := ⟨none, .empty, maxDatagramSize⟩

def isInitialized (e : DatagramEndpoint) : Bool := e.binding.isSome

def bound (e : DatagramEndpoint) : Except TransferError DatagramBinding :=
  match e.binding with
  | some b => .ok b
  | none => .error .notInitialized

def register (e : DatagramEndpoint) (region : Region) :
    Except TransferError (RegistrationHandle × DatagramEndpoint) := do
  let _ ← e.bound
  let (handle, registrations) ← e.registrations.register region
  return (handle, { e with registrations })

def unregister (e : DatagramEndpoint) (handle : RegistrationHandle) :
    Except TransferError DatagramEndpoint := do
  return { e with registrations := ← e.registrations.unregister handle }

end DatagramEndpoint

structure SocketTable where
  sockets : List Socket

namespace SocketTable

def empty : SocketTable := ⟨[]⟩

def init (host : Host) (t : SocketTable) (e : DatagramEndpoint) (interface : String)
    (peer : Option Nat) : Except TransferError (DatagramEndpoint × SocketTable) := do
  if e.isInitialized then throw .alreadyInitialized
  let ip ← host.bindAddress interface
  return ({ e with binding := some ⟨t.sockets.length, peer⟩ }, ⟨t.sockets ++ [⟨ip, true, []⟩]⟩)

def modify (t : SocketTable) (n : Nat) (f : Socket → Socket) : SocketTable :=
  ⟨t.sockets.modify n f⟩

/-- A datagram to a socket that is gone is lost. -/
def deliver (t : SocketTable) (n : Nat) (data : List UInt8) : SocketTable :=
  t.modify n fun s => if s.isOpen then { s with queue := s.queue ++ [data] } else s

def send (t : SocketTable) (e : DatagramEndpoint) (data : List UInt8) :
    Except TransferError SocketTable := do
  let b ← e.bound
  match b.peer with
  | none => throw .noPeer
  | some peer =>
    if data.length > e.maxDatagramSize then
      throw (.frameTooLarge data.length e.maxDatagramSize)
    return t.deliver peer data

/-- The oldest datagram, as far as it fits the endpoint's limit, if there is one. -/
def receive (t : SocketTable) (e : DatagramEndpoint) :
    Except TransferError (Option (List UInt8) × SocketTable) := do
  let b ← e.bound
  match (t.sockets[b.socket]?).map (·.queue) with
  | some (data :: rest) =>
    return (some (data.take e.maxDatagramSize), t.modify b.socket fun s => { s with queue := rest })
  | _ => return (none, t)

def close (t : SocketTable) (e : DatagramEndpoint) : DatagramEndpoint × SocketTable :=
  match e.binding with
  | none => (e, t)
  | some b =>
    ({ e with binding := none, registrations := e.registrations.clear.2 },
      t.modify b.socket fun s => { s with isOpen := false, queue := [] })

def address? (t : SocketTable) (e : DatagramEndpoint) : Option IpAddress :=
  e.binding.bind fun b => (t.sockets[b.socket]?).map (·.ip)

end SocketTable

end NumaFabric
