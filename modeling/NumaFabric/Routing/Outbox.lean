import NumaFabric.Routing.Router

namespace NumaFabric

open NumaFabric.Wire

inductive OutboxMode where
  | accepting
  | closed
  | noPeer
  | tooLarge
  | codec
  | short
deriving DecidableEq

namespace OutboxMode

def ofName : String → OutboxMode
  | "closed" => closed
  | "no_peer" => noPeer
  | "too_large" => tooLarge
  | "codec" => codec
  | "short" => short
  | _ => accepting

end OutboxMode

structure Outbox where
  mode : OutboxMode
  /-- What was kept, latest first. -/
  kept : List (NodeId × IpAddress × Command)

namespace Outbox

def empty : Outbox := ⟨.accepting, []⟩

def refusal? (mode : OutboxMode) (c : Command) : Option TransferError :=
  match mode with
  | .accepting => none
  | .closed => some .closed
  | .noPeer => some .noPeer
  | .tooLarge => some (.frameTooLarge c.framedLength 64)
  | .codec => some (.codec (.payloadTooLarge 5000000000))
  | .short => some (.shortSend 1 c.framedLength)

def forward : Forward Outbox := fun node address c box =>
  match refusal? box.mode c with
  | some e => (.error e, box)
  | none => (.ok (), { box with kept := (node, address, c) :: box.kept })

def take (box : Outbox) : List (NodeId × IpAddress × Command) × Outbox :=
  (box.kept.reverse, { box with kept := [] })

end Outbox

end NumaFabric
