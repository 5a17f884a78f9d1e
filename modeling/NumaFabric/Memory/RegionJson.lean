import NumaFabric.Json.Reader
import NumaFabric.Memory.Region

namespace NumaFabric.Region

def toJson (r : Region) : Json :=
  .obj [("addr", .ofNat r.base.toNat), ("size", .ofNat r.size.toNat)]

def ofJson? (j : Json) : Option Region := do
  let r ← j.record? ["addr", "size"]
  return ⟨← r.required "addr" Json.toUInt64?, ← r.required "size" Json.toUInt64?⟩

end NumaFabric.Region
