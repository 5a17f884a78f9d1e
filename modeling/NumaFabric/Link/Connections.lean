import NumaFabric.Link.Loopback
import NumaFabric.Net.SocketAddress
import NumaFabric.Routing.Router
/-!
Connections to peers are made when first needed and kept, one for each peer address. A connection
that fails because it is closed or was never ready is dropped, and the next use makes a new one.
Sending has three steps of its own (find or make the transport, send on it, drop it if it broke), so
that several sends may interleave.
-/

namespace NumaFabric

open NumaFabric.Wire

inductive TransportMake where
  | ok
  | noPeer
  | preclosed
  | preinitialized
deriving DecidableEq

structure Transport where
  phase : Phase
  wired : Bool
  peer : SocketAddress
deriving DecidableEq

namespace Transport

def make (how : TransportMake) (peer : SocketAddress) : Transport :=
  match how with
  | .ok => ⟨.created, true, peer⟩
  | .noPeer => ⟨.created, false, peer⟩
  | .preclosed => ⟨.closed, false, peer⟩
  | .preinitialized => ⟨.ready, true, peer⟩

def close (t : Transport) : Transport := { t with phase := .closed, wired := false }

end Transport

/-- The surroundings of a registry, with state `σ`: how its transports are made, the port that they
send to at every peer, and what becomes of the data sent on a ready one. -/
structure Wiring (σ : Type) where
  make : Nat → TransportMake
  peerPort : UInt16
  deliver : IpAddress → List UInt8 → σ → Except TransferError Unit × σ

structure Connections where
  /-- Every transport made so far; its place is its number. -/
  made : List Transport
  /-- The number of the transport for each connected peer. -/
  cached : List (IpAddress × Nat)

namespace Connections

variable {σ : Type}

def empty : Connections := ⟨[], []⟩

def size (c : Connections) : Nat := c.cached.length

def transport? (c : Connections) (n : Nat) : Option Transport := c.made[n]?

def lookup? (c : Connections) (peer : IpAddress) : Option Nat := c.cached.lookup peer

def connect (w : Wiring σ) (c : Connections) (peer : IpAddress) :
    Except TransferError Nat × Connections :=
  let n := c.made.length
  let fresh := Transport.make (w.make n) (.of peer w.peerPort)
  match fresh.phase.init with
  | .ok phase => (.ok n, ⟨c.made ++ [{ fresh with phase }], c.cached ++ [(peer, n)]⟩)
  | .error e => (.error e, { c with made := c.made ++ [fresh.close] })

/-- First step: the transport for a peer, cached or new. -/
def acquire (w : Wiring σ) (c : Connections) (peer : IpAddress) :
    Except TransferError Nat × Connections :=
  match c.lookup? peer with
  | some n => (.ok n, c)
  | none => c.connect w peer

/-- Second step: sends on a transport, whatever the cache holds by now. -/
def transmit (w : Wiring σ) (c : Connections) (n : Nat) (data : List UInt8) (s : σ) :
    Except TransferError Unit × σ :=
  match c.transport? n with
  | none => (.error .notInitialized, s)
  | some t =>
    match t.phase.ensureReady with
    | .error e => (.error e, s)
    | .ok () => if t.wired then w.deliver t.peer.ip data s else (.error .noPeer, s)

def evict (c : Connections) (peer : IpAddress) : Connections :=
  { c with cached := c.cached.filter fun e => e.1 ≠ peer }

/-- Third step: drops the connection if the result says that it is broken. -/
def afterSend (c : Connections) (peer : IpAddress) : Except TransferError Unit → Connections
  | .error e => if e.breaksLink then c.evict peer else c
  | .ok () => c

/-- The three steps, one right after the other. -/
def sendTo (w : Wiring σ) (peer : IpAddress) (data : List UInt8) (c : Connections) (s : σ) :
    Except TransferError Unit × Connections × σ :=
  match c.acquire w peer with
  | (.error e, c) => (.error e, c, s)
  | (.ok n, c) =>
    let (result, s) := c.transmit w n data s
    (result, c.afterSend peer result, s)

/-- Closes a transport from outside; it stays cached. -/
def closeTransport (c : Connections) (n : Nat) : Connections :=
  match c.transport? n with
  | some t => { c with made := c.made.set n t.close }
  | none => c

def closeAll (c : Connections) : Connections :=
  let closed := c.cached.foldl (fun c e => c.closeTransport e.2) c
  { closed with cached := [] }

def forward (w : Wiring σ) : Forward (Connections × σ) := fun _ peer command (c, s) =>
  match encodeFramed command with
  | .error e => (.error (.codec e), (c, s))
  | .ok frame =>
    let (result, c, s) := c.sendTo w peer frame s
    (result, (c, s))

end Connections

structure Hub where
  destroyed : Bool
  inbox : List (List UInt8)

namespace Hub

def empty : Hub := ⟨false, []⟩

def deliver (_ : IpAddress) (data : List UInt8) (hub : Hub) : Except TransferError Unit × Hub :=
  if hub.destroyed then (.error .closed, hub)
  else (.ok (), { hub with inbox := hub.inbox ++ [data] })

def destroy (_ : Hub) : Hub := ⟨true, []⟩

/-- A registry whose `n`-th transport is made as the list says, and all others in working order. -/
def wiring (makes : List TransportMake) : Wiring Hub where
  make n := makes.getD n .ok
  peerPort := 5555
  deliver := deliver

end Hub

end NumaFabric
