import NumaFabric.Link.TransferError
import NumaFabric.Memory.LocalMemory
import NumaFabric.Retry.Run
import NumaFabric.Routing.RouteTable
/-!
A router carries a command out on its node's memory, if the node owns the destination, or hands it
to the link for the node that does. The owner is the one of the destination's first address. A
failing memory call is repeated as the policy says while its fault is transient.
-/

namespace NumaFabric

open NumaFabric.Wire

inductive RouteError where
  | routeNotFound (node : NodeId)
  | unmappedAddress (address : Address)
  | invalidPayload
  | memory (cause : MemoryError)
  | retriesExhausted (attempts : Nat) (last : MemoryError)
  | transfer (node : NodeId) (cause : TransferError)
  /-- A wait between attempts is longer than any duration, so the command gets no answer. -/
  | delayOverflow
deriving DecidableEq

namespace RouteError

def kind : RouteError → String
  | routeNotFound _ => "RouteNotFound"
  | unmappedAddress _ => "UnmappedAddress"
  | invalidPayload => "InvalidPayload"
  | memory _ => "Memory"
  | retriesExhausted _ _ => "RetriesExhausted"
  | transfer _ _ => "Transfer"
  | delayOverflow => "DelayOverflow"

def inner? : RouteError → Option String
  | memory e | retriesExhausted _ e => some e.kind
  | transfer _ e => some e.kind
  | _ => none

def message : RouteError → String
  | routeNotFound node => s!"no route to node {node.toNat}"
  | unmappedAddress a => "destination " ++ a.text ++ " is not owned by any node"
  | invalidPayload => "set command carries no fill value"
  | memory cause => "local memory fault: " ++ cause.message
  | retriesExhausted attempts last =>
    s!"local memory access failed after {attempts} attempts: " ++ last.message
  | transfer node cause => s!"forward to node {node.toNat} failed: " ++ cause.message
  | delayOverflow => Retry.delayOverflowMessage

end RouteError

inductive RouteOutcome where
  | here (node : NodeId)
  | forwarded (node : NodeId) (address : IpAddress)
deriving DecidableEq

namespace RouteOutcome

def node : RouteOutcome → NodeId
  | here node => node
  | forwarded node _ => node

def text : RouteOutcome → String
  | here node => s!"local(node {node.toNat})"
  | forwarded node address => s!"forwarded(node {node.toNat} @ " ++ address.text ++ ")"

end RouteOutcome

/-- How commands leave a node, over links with state `φ`. -/
abbrev Forward (φ : Type) :=
  NodeId → IpAddress → Command → φ → Except TransferError Unit × φ

structure Router (φ : Type) where
  node : NodeId
  map : AddressMap
  routes : RouteTable
  memory : LocalMemory
  retry : Retry.Policy
  links : φ

/-- The parts of a router as they are given one by one. -/
structure RouterParts (φ : Type) where
  locator : Option NodeId := none
  resolver : Option AddressMap := none
  routes : Option RouteTable := none
  memory : Option LocalMemory := none
  forwarder : Option φ := none
  retry : Option Retry.Policy := none

structure MissingPart where
  name : String
deriving DecidableEq

namespace RouterParts

variable {φ : Type}

def required {α : Type} (name : String) : Option α → Except MissingPart α
  | some a => .ok a
  | none => .error ⟨name⟩

/-- The router of these parts; only the policy has a default. -/
def build (p : RouterParts φ) : Except MissingPart (Router φ) := do
  return {
    node := ← required "locator" p.locator
    map := ← required "resolver" p.resolver
    routes := ← required "routes" p.routes
    memory := ← required "memory" p.memory
    links := ← required "forwarder" p.forwarder
    retry := p.retry.getD .localMemory }

end RouterParts

def MissingPart.message (e : MissingPart) : String := "`" ++ e.name ++ "` must be initialized"

namespace Router

variable {φ : Type}

def attempt (c : Command) (m : LocalMemory) : Except MemoryError Unit × LocalMemory :=
  match c.operation with
  | .copy => m.copyIn c.destination c.payload
  | .set => m.fill c.destination c.dataSize.toNat (c.payload.headD 0)

def applyHere (r : Router φ) (c : Command) : Except RouteError Unit × Router φ :=
  let (outcome, memory) := Retry.run r.retry MemoryError.isTransient (fun _ => attempt c) r.memory
  let r := { r with memory }
  match outcome with
  | .ok () => (.ok (), r)
  | .permanent _ e => (.error (.memory e), r)
  | .exhausted attempts e => (.error (.retriesExhausted attempts e), r)
  | .delayOverflow _ => (.error .delayOverflow, r)

def forwardTo (forward : Forward φ) (r : Router φ) (owner : NodeId) (c : Command) :
    Except RouteError RouteOutcome × Router φ :=
  match r.routes.get? owner with
  | none => (.error (.routeNotFound owner), r)
  | some address =>
    match forward owner address c.withFreshChecksum r.links with
    | (.ok (), links) => (.ok (.forwarded owner address), { r with links })
    | (.error e, links) => (.error (.transfer owner e), { r with links })

def route (forward : Forward φ) (r : Router φ) (c : Command) :
    Except RouteError RouteOutcome × Router φ :=
  if c.operation = .set ∧ c.payload = [] then (.error .invalidPayload, r)
  else
    match r.map.owner? c.destination with
    | none => (.error (.unmappedAddress c.destination), r)
    | some owner =>
      if owner = r.node then
        match r.applyHere c with
        | (.ok (), r) => (.ok (.here owner), r)
        | (.error e, r) => (.error e, r)
      else r.forwardTo forward owner c

/-- Routes a fill that is given by its value and its length. Carried out here, it comes to a fill of
as many bytes as the size field of its command says; its bytes are only spelled out for a link. -/
def routeFill (forward : Forward φ) (r : Router φ) (a : Address) (value : UInt8) (length : Nat) :
    Except RouteError RouteOutcome × Router φ :=
  if length = 0 then (.error .invalidPayload, r)
  else
    match r.map.owner? a with
    | none => (.error (.unmappedAddress a), r)
    | some owner =>
      if owner = r.node then
        match r.applyHere (.fill a value (length % UInt32.size)) with
        | (.ok (), r) => (.ok (.here owner), r)
        | (.error e, r) => (.error e, r)
      else r.forwardTo forward owner (.fill a value length)

def routeFrame (forward : Forward φ) (r : Router φ) (frame : List UInt8) :
    Except CodecError (Except RouteError RouteOutcome) × Router φ :=
  match decodeFramed frame with
  | .error e => (.error e, r)
  | .ok c =>
    let (result, r) := r.route forward c
    (.ok result, r)

def debugText (r : Router φ) : String :=
  s!"Router \x7b routes: {r.routes.size}, retry: " ++ r.retry.debugText ++ " \x7d"

end Router

end NumaFabric
