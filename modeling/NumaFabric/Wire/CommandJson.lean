import NumaFabric.Json.Reader
import NumaFabric.Text.Hexadecimal
import NumaFabric.Wire.Frame

namespace NumaFabric.Wire

def bytesJson (bytes : List UInt8) : Json := .str (String.ofList (Text.hexOfBytes bytes))

namespace Operation

def toJson : Operation → Json
  | copy => .str "Copy"
  | set => .str "Set"

/-- The name of an operation: a text, or an object that says `null` about it. -/
def ofJson? (j : Json) : Option Operation :=
  match j with
  | .str "Copy" | .obj [("Copy", .null)] => some copy
  | .str "Set" | .obj [("Set", .null)] => some set
  | _ => none

end Operation

namespace Command

def toJson (c : Command) : Json :=
  .obj [("checksum", .ofNat c.checksum.toNat), ("data_size", .ofNat c.dataSize.toNat),
    ("dst", .ofNat c.destination.toNat), ("operation", .str c.operation.text),
    ("payload", bytesJson c.payload)]

end Command

end NumaFabric.Wire
