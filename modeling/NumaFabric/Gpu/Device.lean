import NumaFabric.Json.Reader

namespace NumaFabric

abbrev ClientId := String

inductive Ownership where
  | free
  | owned (client : ClientId)
deriving DecidableEq

namespace Ownership

def owner? : Ownership → Option ClientId
  | free => none
  | owned client => some client

def isFree : Ownership → Bool
  | free => true
  | owned _ => false

def toJson : Ownership → Json
  | free => .obj [("state", .str "free")]
  | owned client => .obj [("state", .str "owned"), ("client", .str client)]

/-- The name of a state in an object: a text, or an object that says `null` about it. -/
def state? : Json → Option String
  | .str s => some s
  | .obj [(s, .null)] => some s
  | _ => none

/-- The owner stands beside the state, or after it in an array; a free GPU may say `null` there. -/
def ofJson? (j : Json) : Option Ownership := do
  let r ← j.record? ["state", "client"]
  let state ← r.required "state" (if r.byPosition then Json.toString? else state?)
  match state, r.get? "client" with
  | "free", none => if r.byPosition then none else return free
  | "free", some .null => return free
  | "owned", some (.str client) => return owned client
  | _, _ => none

end Ownership

structure Gpu where
  uuid : String
  name : String
  totalMemory : UInt64
  freeMemory : UInt64
  ownership : Ownership
deriving DecidableEq

namespace Gpu

def of (uuid name : String) (total free : UInt64) : Gpu := ⟨uuid, name, total, free, .free⟩

end Gpu

structure GpuInfo where
  uuid : String
  name : String
  totalMemory : UInt64
  freeMemory : UInt64
  owner : Option ClientId
deriving DecidableEq

structure GpuStatus where
  uuid : String
  available : Bool
  owner : Option ClientId
  freeMemory : UInt64
  totalMemory : UInt64
deriving DecidableEq

namespace Gpu

def info (g : Gpu) : GpuInfo :=
  ⟨g.uuid, g.name, g.totalMemory, g.freeMemory, g.ownership.owner?⟩

def status (g : Gpu) : GpuStatus :=
  ⟨g.uuid, g.ownership.isFree, g.ownership.owner?, g.freeMemory, g.totalMemory⟩

end Gpu

def ownerField (owner : Option ClientId) : List (String × Json) :=
  owner.toList.map fun c => ("owner", .str c)

namespace GpuInfo

def toJson (g : GpuInfo) : Json :=
  .obj ([("uuid", .str g.uuid), ("name", .str g.name),
    ("total_memory_bytes", .ofNat g.totalMemory.toNat),
    ("free_memory_bytes", .ofNat g.freeMemory.toNat)] ++ ownerField g.owner)

def ofJson? (j : Json) : Option GpuInfo := do
  let r ← j.record? ["uuid", "name", "total_memory_bytes", "free_memory_bytes", "owner"]
  return ⟨← r.required "uuid" Json.toString?, ← r.required "name" Json.toString?,
    ← r.required "total_memory_bytes" Json.toUInt64?,
    ← r.required "free_memory_bytes" Json.toUInt64?,
    ← r.defaulted "owner" none (Json.toOption? Json.toString?)⟩

end GpuInfo

namespace GpuStatus

def toJson (g : GpuStatus) : Json :=
  .obj ([("uuid", .str g.uuid), ("available", .bool g.available)] ++ ownerField g.owner ++
    [("free_memory_bytes", .ofNat g.freeMemory.toNat),
      ("total_memory_bytes", .ofNat g.totalMemory.toNat)])

def ofJson? (j : Json) : Option GpuStatus := do
  let r ← j.record? ["uuid", "available", "owner", "free_memory_bytes", "total_memory_bytes"]
  return ⟨← r.required "uuid" Json.toString?, ← r.required "available" Json.toBool?,
    ← r.defaulted "owner" none (Json.toOption? Json.toString?),
    ← r.required "free_memory_bytes" Json.toUInt64?,
    ← r.required "total_memory_bytes" Json.toUInt64?⟩

end GpuStatus

end NumaFabric
