import NumaFabric.Logging.Filter
import NumaFabric.Memory.RegionJson
import NumaFabric.Numa.NumaNode
import NumaFabric.Report.Failure
import NumaFabric.Routing.Outbox
import NumaFabric.Settings.FabricJson
import NumaFabric.Wire.CommandJson

namespace NumaFabric

open NumaFabric.Wire

namespace RouteTable

def toJson (t : RouteTable) : Json :=
  Json.ofList (fun e => .arr [.ofNat e.1.toNat, .str e.2.text]) t.toList

end RouteTable

namespace RouteOutcome

def toJson (o : RouteOutcome) : Json :=
  match o with
  | here n => .obj [("local", .ofNat n.toNat), ("text", .str o.text)]
  | forwarded n a =>
    .obj [("forwarded", .ofNat n.toNat), ("addr", .str a.text), ("text", .str o.text)]

end RouteOutcome

namespace Outbox

def toJson (box : Outbox) : Json :=
  Json.ofList (fun s => .obj [("node", .ofNat s.1.toNat), ("addr", .str s.2.1.text),
    ("command", s.2.2.toJson)]) box.take.1

end Outbox

namespace DispatchStats

def toJson (s : DispatchStats) : Json :=
  .obj [("received", .ofNat s.received.toNat), ("dropped_full", .ofNat s.droppedFull.toNat),
    ("malformed", .ofNat s.malformed.toNat),
    ("checksum_failed", .ofNat s.checksumFailed.toNat), ("routed", .ofNat s.routed.toNat),
    ("route_failed", .ofNat s.routeFailed.toNat), ("settled", .ofNat s.settled.toNat)]

end DispatchStats

namespace RegistrationHandle

def toJson (h : RegistrationHandle) : Json :=
  .obj [("id", .ofNat h.id.toNat), ("region", h.region.toJson)]

end RegistrationHandle

namespace Gpu

def toJson (g : Gpu) : Json :=
  .obj [("uuid", .str g.uuid), ("name", .str g.name), ("total", .ofNat g.totalMemory.toNat),
    ("free", .ofNat g.freeMemory.toNat), ("ownership", g.ownership.toJson)]

end Gpu

namespace DeviceFunction

def toJson (f : DeviceFunction) : Json := .obj [("module", .str f.module), ("name", .str f.name)]

end DeviceFunction

namespace DeviceModule

/-- A module, its text only by its length in bytes. -/
def toJson (m : DeviceModule) : Json :=
  .obj [("name", .str m.name), ("entries", Json.ofList .str m.entries), ("path", .str m.path),
    ("source_len", .ofNat m.source.utf8ByteSize)]

end DeviceModule

namespace ExecutedKernel

def toJson (k : ExecutedKernel) : Json :=
  .obj [("function", k.function.toJson), ("params", bytesJson k.params),
    ("grid", k.launch.grid.toJson), ("block", k.launch.block.toJson),
    ("shared", .ofNat k.launch.sharedMemory.toNat), ("flags", .ofNat k.launch.flags.toNat)]

end ExecutedKernel

class Told (α : Type) where
  tell : α → Json

export Told (tell)

instance : Told Json := ⟨id⟩

instance : Told Unit := ⟨fun _ => .null⟩

instance : Told Bool := ⟨.bool⟩

instance : Told Nat := ⟨.ofNat⟩

instance : Told UInt32 := ⟨fun n => .ofNat n.toNat⟩

instance : Told UInt64 := ⟨fun n => .ofNat n.toNat⟩

instance : Told String := ⟨.str⟩

instance : Told (List Char) := ⟨fun s => .str (String.ofList s)⟩

instance : Told (List UInt8) := ⟨bytesJson⟩

instance {α : Type} [Told α] : Told (Option α) := ⟨Json.ofOption tell⟩

instance {α : Type} [Told α] : Told (List α) := ⟨Json.ofList tell⟩

instance : Told IpAddress := ⟨fun ip => .str ip.text⟩

instance : Told Interface := ⟨fun i => .str i.name⟩

instance : Told Command := ⟨Command.toJson⟩

instance : Told Header where
  tell h := .obj [("operation", .str h.operation.text), ("dst", tell h.destination),
    ("data_size", tell h.dataSize)]

instance : Told Region := ⟨Region.toJson⟩

instance : Told AddressRange := ⟨AddressRange.toJson⟩

instance : Told RouteTable := ⟨RouteTable.toJson⟩

instance : Told RouteOutcome := ⟨RouteOutcome.toJson⟩

instance : Told Outbox := ⟨Outbox.toJson⟩

instance : Told DispatchStats := ⟨DispatchStats.toJson⟩

instance : Told RegistrationHandle := ⟨RegistrationHandle.toJson⟩

instance : Told Gpu := ⟨Gpu.toJson⟩

instance : Told GpuInfo := ⟨GpuInfo.toJson⟩

instance : Told GpuStatus := ⟨GpuStatus.toJson⟩

instance : Told DeviceFunction := ⟨DeviceFunction.toJson⟩

instance : Told DeviceModule := ⟨DeviceModule.toJson⟩

instance : Told Ownership := ⟨Ownership.toJson⟩

instance : Told NumaNode := ⟨NumaNode.toJson⟩

instance : Told Operation := ⟨Operation.toJson⟩

instance : Told KernelLaunch := ⟨KernelLaunch.toJson⟩

instance : Told ExecutedKernel := ⟨ExecutedKernel.toJson⟩

instance : Told CommandResponse := ⟨CommandResponse.toJson⟩

instance : Told Rpc.Request := ⟨Rpc.Request.toJson⟩

instance : Told Rpc.Response := ⟨Rpc.Response.toJson⟩

/-- A response with the words of the reader and of the runtime left out. -/
def tellResponse : Rpc.Response → Json
  | .error "internal" _ => tell (Rpc.Response.error "internal" "<panic>")
  | .error "invalid_request" message =>
    let kept := if message = Rpc.Session.lateHello then message else "<json>"
    tell (Rpc.Response.error "invalid_request" kept)
  | r => tell r

instance : Told DispatcherConfig where
  tell c := .obj [("workers", tell c.workers), ("queue_capacity", tell c.queueCapacity),
    ("max_datagram_size", tell c.maxDatagramSize)]

instance : Told TransportSettings := ⟨TransportSettings.toJson⟩

instance : Told TransportConfig := ⟨TransportConfig.toJson⟩

instance : Told FabricConfig := ⟨FabricConfig.toJson⟩

def success {α : Type} [Told α] (a : α) : Json := .obj [("ok", tell a)]

def tellResult {ε α : Type} [Reported ε] [Told α] : Except ε α → Json
  | .ok a => success a
  | .error e => report e

/-- What a log shows of one event of each level for each of these targets. -/
def tellEvents (s : Logging.FilterSetup) (format : Logging.LineFormat) (targets : List String) :
    Json :=
  let levels (t : String) := Logging.Verbosity.levels.filter fun v => s.filter.enabled t v ["message"]
  let events := (targets.map fun t => (t, levels t)).filter fun e => !e.2.isEmpty
  let count := (events.flatMap fun e => e.2).length
  let (lines, plain, ansi) := match format with
    | .jsonLines => (events, 0, false)
    | .compact colours => ([], count, colours && count > 0)
  .obj [("exit", .ofNat 0),
    ("json_events", .obj (lines.map fun e => (e.1, tell (e.2.map (·.text))))),
    ("plain_lines", tell (plain + s.noticeLines)), ("ansi", .bool ansi),
    ("bad_filters", tell s.badFilters.length)]

/-- Both frames of a command, and whether they are read as the command again. -/
def tellEncodings (c : Command) : Json :=
  match encode c, encodeFramed c with
  | .ok bare, .ok framed =>
    let readBack : Except CodecError Command → Bool
      | .ok d => d = c
      | .error _ => false
    .obj [("bare", tell bare), ("framed", tell framed), ("framed_len", tell c.framedLength),
      ("checksum", tell c.checksum), ("data_size", tell c.dataSize),
      ("code", tell c.operation.code.toNat), ("verified", tell c.verify.toBool),
      ("round_trip", tell (readBack (decode bare) && readBack (decodeFramed framed)))]
  | .error e, _ | _, .error e => report e

end NumaFabric
