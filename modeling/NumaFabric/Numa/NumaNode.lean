import NumaFabric.Json.Reader
import NumaFabric.Net.IpAddress
import NumaFabric.Numa.AddressMap

namespace NumaFabric

structure NumaNode where
  id : NodeId
  ip : Option IpAddress
  gpus : OrderedMap String Unit
  interfaces : OrderedMap String Unit

namespace NumaNode

def new (id : NodeId) : NumaNode := ⟨id, none, .empty, .empty⟩

def names (l : List String) : OrderedMap String Unit := OrderedMap.ofList (l.map fun s => (s, ()))

def toJson (n : NumaNode) : Json :=
  .obj [("id", .ofNat n.id.toNat), ("ip_address", Json.ofOption (fun ip => .str ip.text) n.ip),
    ("gpus", Json.ofList .str n.gpus.keys), ("rdma_interfaces", Json.ofList .str n.interfaces.keys)]

def names? (j : Json) : Option (OrderedMap String Unit) := (j.toList? Json.toString?).map names

def ofJson? (j : Json) : Option NumaNode := do
  let r ← j.record? ["id", "ip_address", "gpus", "rdma_interfaces"]
  return ⟨← r.required "id" Json.toUInt32?,
    ← r.optional "ip_address" fun j => j.toString?.bind fun s => IpAddress.parse? s.toList,
    ← r.defaulted "gpus" .empty names?, ← r.defaulted "rdma_interfaces" .empty names?⟩

end NumaNode

end NumaFabric
