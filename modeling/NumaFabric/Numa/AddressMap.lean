import NumaFabric.Json.Parser
import NumaFabric.Json.Reader
import NumaFabric.Memory.Region
import NumaFabric.Store.OrderedMap
/-!
The address map: which node owns which range of addresses. Ranges share no address, an address is
looked up at the range with the greatest base that is not above it, and ranges end before the last
address of the space.
-/

namespace NumaFabric

abbrev NodeId := UInt32

structure AddressRange where
  base : Address
  length : UInt64
  node : NodeId
deriving DecidableEq

namespace AddressRange

def stop (r : AddressRange) : Nat := rangeEnd r.base r.length

def toJson (r : AddressRange) : Json :=
  .obj [("base", .ofNat r.base.toNat), ("len", .ofNat r.length.toNat),
    ("node", .ofNat r.node.toNat)]

def ofJson? (j : Json) : Option AddressRange := do
  let r ← j.record? ["base", "len", "node"]
  return ⟨← r.required "base" Json.toUInt64?, ← r.required "len" Json.toUInt64?,
    ← r.required "node" Json.toUInt32?⟩

end AddressRange

inductive AddressMapError where
  | overlap (base : Address) (length : UInt64)
  | noSuchRange (base : Address)
  | unreadable
  | notRanges
deriving DecidableEq

namespace AddressMapError

def kind : AddressMapError → String
  | overlap _ _ => "Overlap"
  | noSuchRange _ => "NoSuchRange"
  | unreadable => "Io"
  | notRanges => "Json"

def message? : AddressMapError → Option String
  | overlap base length =>
    some ("address range [" ++ base.text ++ s!", +{length.toNat}) overlaps an existing mapping")
  | noSuchRange base => some ("no mapping starts at " ++ base.text)
  | unreadable | notRanges => none

end AddressMapError

abbrev AddressMap := OrderedMap Address AddressRange

namespace AddressMap

/-- Adds a range, unless it is empty or shares an address with another one. -/
def insertRange (m : AddressMap) (base : Address) (length : UInt64) (node : NodeId) :
    Except AddressMapError AddressMap :=
  let candidate : AddressRange := ⟨base, length, node⟩
  let overlaps := m.values.any fun r =>
    base.toNat < r.stop && r.base.toNat < candidate.stop
  if length == 0 || overlaps then .error (.overlap base length)
  else .ok (m.insert base candidate)

def ofRanges (ranges : List AddressRange) : Except AddressMapError AddressMap :=
  ranges.foldlM (fun m r => m.insertRange r.base r.length r.node) .empty

def migrate (m : AddressMap) (base : Address) (node : NodeId) :
    Except AddressMapError (NodeId × AddressMap) :=
  match m.get? base with
  | some r => .ok (r.node, m.insert base { r with node })
  | none => .error (.noSuchRange base)

def remove (m : AddressMap) (base : Address) : Option AddressRange × AddressMap :=
  (m.get? base, m.erase base)

def ranges (m : AddressMap) : List AddressRange := m.values

def owner? (m : AddressMap) (a : Address) : Option NodeId :=
  (((m.floor? a).map (·.2)).filter fun r => decide (a.toNat < r.stop)).map (·.node)

def load : Option String → Except AddressMapError AddressMap
  | none => .error .unreadable
  | some text =>
    match (Json.parse? text).bind (Json.toList? AddressRange.ofJson?) with
    | none => .error .notRanges
    | some ranges => ofRanges ranges

end AddressMap

end NumaFabric
