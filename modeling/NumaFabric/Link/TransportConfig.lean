import NumaFabric.Json.Reader
import NumaFabric.Net.SocketAddress

namespace NumaFabric

structure TransportSettings where
  /-- The local port; zero lets the machine choose one. -/
  port : UInt16
  maxSends : UInt32
  maxReceives : UInt32
  maxInline : UInt32
deriving DecidableEq

instance : Inhabited TransportSettings := ⟨⟨0, 1024, 1024, 64⟩⟩

namespace TransportSettings

def fields (s : TransportSettings) : List (String × Json) :=
  [("port", .ofNat s.port.toNat), ("max_send_wr", .ofNat s.maxSends.toNat),
    ("max_recv_wr", .ofNat s.maxReceives.toNat), ("max_inline", .ofNat s.maxInline.toNat)]

def toJson (s : TransportSettings) : Json := .obj s.fields

def fieldNames : List String := ["port", "max_send_wr", "max_recv_wr", "max_inline"]

def ofRecord? (r : Json.Record) : Option TransportSettings := do
  return ⟨← r.required "port" Json.toUInt16?, ← r.required "max_send_wr" Json.toUInt32?,
    ← r.required "max_recv_wr" Json.toUInt32?, ← r.required "max_inline" Json.toUInt32?⟩

def ofJson? (j : Json) : Option TransportSettings := do ofRecord? (← j.record? fieldNames)

end TransportSettings

structure TransportConfig where
  interface : String
  settings : TransportSettings
  peer : Option SocketAddress
deriving DecidableEq

namespace TransportConfig

def of (interface : String) (settings : TransportSettings) : TransportConfig :=
  ⟨interface, settings, none⟩

def toJson (c : TransportConfig) : Json :=
  .obj (("iface", .str c.interface) :: c.settings.fields ++
    [("peer", Json.ofOption (fun a => .str a.text) c.peer)])

def ofJson? (j : Json) : Option TransportConfig := do
  let r ← j.record? ("iface" :: TransportSettings.fieldNames ++ ["peer"])
  return ⟨← r.required "iface" Json.toString?, ← TransportSettings.ofRecord? r,
    ← r.optional "peer" fun j => j.toString?.bind fun s => SocketAddress.parse? s.toList⟩

end TransportConfig

end NumaFabric
