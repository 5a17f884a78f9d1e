import NumaFabric.Logging.Filter
import NumaFabric.Node.Running
import NumaFabric.Settings.CommandLine
import NumaFabric.Text.Hexadecimal
import Std.Async.Signal
import Std.Async.TCP
import Std.Async.UDP
import Std.Net.Addr
import Std.Sync.Mutex

namespace NumaFabric.Program

open NumaFabric.Settings NumaFabric.Text Std.Async

def readBytes? (path : String) : IO (Option (List UInt8)) := do
  try return some (← IO.FS.readBinFile path).toList
  catch _ => return none

def readText? (path : String) : IO (Option String) := do
  return (← readBytes? path).bind utf8Decode?

def environment : IO Variables := do
  return Variables.ofBlock ((← readText? "/proc/self/environ").getD "").toList

def host : IO Host := do
  let found := (← Std.Net.interfaceAddresses).toList
  let names := (found.map (·.name)).eraseDups
  return ⟨names.map fun name =>
    let own := found.filter (·.name == name)
    ⟨name, true, own.filterMap fun i => IpAddress.parse? (toString i.address).toList⟩⟩

def topology? : IO (Option Topology) := do
  let directory := "/sys/devices/system/node/"
  match CpuList.parse (trim ((← readText? (directory ++ "online")).getD "").toList) with
  | .error _ => return none
  | .ok nodes =>
    let entries ← nodes.mapM fun n => do
      let name := "node" ++ String.ofList (decimal n)
      let listed ← readBytes? (directory ++ name ++ "/cpulist")
      return (name, (listed.map NodeEntry.listed).getD .other)
    return (Topology.ofDirectory (some entries)).toOption

/-- What a node of these settings finds on the machine. Files of modules are looked at when they are
asked for. -/
def surroundings (c : FabricConfig) : IO Surroundings := do
  let paths := c.routeTablePath :: (c.inventoryPath.toList ++ c.addressMapPath.toList)
  let files ← paths.mapM fun path => return (path, ← readBytes? path)
  let status := ((← readText? "/proc/self/status").getD "").toList
  return {
    host := ← host
    file := fun path => (files.lookup path).join
    topology := ← topology?
    affinity := (CpuList.allowed? status).getD []
    modules := ⟨c.moduleDirectory, []⟩ }

/-- A running node and the socket of its ingress, whose port is that of all nodes. -/
structure Station where
  node : Std.Mutex Node
  socket : UDP.Socket
  port : UInt16

def endpoint? (a : SocketAddress) : Option Std.Net.SocketAddress :=
  let ip := String.ofList a.ip.render
  match a.ip with
  | .v4 _ => (Std.Net.IPv4Addr.ofString ip).map fun addr => .v4 ⟨addr, a.port⟩
  | .v6 _ => (Std.Net.IPv6Addr.ofString ip).map fun addr => .v6 ⟨addr, a.port⟩

namespace Station

/-- Lets the node do something and carries the frames for other nodes away. A frame that cannot be
sent is lost, as any datagram may be. -/
def act {α : Type} (s : Station) (f : Node → α × Node) : Async α := do
  let (a, frames) ← s.node.atomically do
    let (a, n) := f (← get)
    let (frames, n) := n.takeFrames
    set n
    return (a, frames)
  for (peer, frame) in frames do
    try s.socket.send (.mk frame.toArray) (endpoint? ⟨peer, 0, s.port⟩)
    catch _ => pure ()
  return a

partial def listen (s : Station) (limit : UInt64) : Async Unit := do
  let (datagram, _) ← s.socket.recv limit
  s.act fun n => ((), n.receive datagram.toList)
  s.listen limit

/-- Answers the messages of a client in order until an answer cannot be sent, and tells whether all
were. -/
def converse (s : Station) (client : TCP.Socket.Client) (session : Rpc.Session) :
    List (List UInt8) → Async (Rpc.Session × Bool)
  | [] => return (session, true)
  | message :: rest => do
    if let some (path, file) := (← s.act fun n => (n.neededModule? message, n)) then
      let bytes ← readBytes? path
      s.act fun n => ((), n.seeModule file bytes)
    let (response, session) ← s.act fun n =>
      let (response, session, n) := n.answer session message
      ((response, session), n)
    match Rpc.encodeFrame (utf8Encode response.toJson.text) with
    | .error _ => return (session, false)
    | .ok frame =>
      let sent ←
        try
          client.send (.mk frame.toArray)
          pure true
        catch _ => pure false
      if sent then s.converse client session rest else return (session, false)

partial def serve (s : Station) (client : TCP.Socket.Client) (session : Rpc.Session)
    (reader : Rpc.FrameReader) : Async Unit := do
  let bytes? ← try client.recv? 65536 catch _ => pure none
  match bytes? with
  | none => s.act fun n => ((), n.hangUp session)
  | some bytes =>
    let (messages, reader) := (reader.feed bytes.toList).frames
    let (session, answered) ← s.converse client session messages
    match reader, answered with
    | .ok reader, true => s.serve client session reader
    | _, _ => s.act fun n => ((), n.hangUp session)

/-- Takes clients in; each session gets an id that no one can guess. -/
partial def accept (s : Station) (server : TCP.Socket.Server) : Async Unit := do
  let client ← server.accept
  let id := "session-" ++ String.ofList (hexOfBytes (← IO.getRandomBytes 16).toList)
  background (s.serve client (.new id) .empty)
  s.accept server

/-- Reads the route table again at every hangup. -/
partial def reload (s : Station) (path : String) (hangup : Signal.Waiter) : Async Unit := do
  let _ ← await (← hangup.wait)
  let file ← readText? path
  s.act fun n => ((), n.reloadRoutes file)
  s.reload path hangup

end Station

def run (c : FabricConfig) (node : Node) (ingress clients : Std.Net.SocketAddress) :
    Async Unit := do
  let socket ← UDP.Socket.mk
  socket.bind ingress
  let server ← TCP.Socket.Server.mk
  server.bind clients
  server.listen 128
  let s : Station := ⟨← Std.Mutex.new node, socket, c.dataPort⟩
  background (s.listen c.maxDatagramSize)
  background (s.accept server)
  background (s.reload c.routeTablePath (← Signal.Waiter.mk .sighup true))
  let stop ← Signal.Waiter.mk .sigterm false
  let _ ← await (← stop.wait)
  s.act fun n => ((), n.stop)

def give (code : UInt32) (words : String) : IO UInt32 := do
  if code = 0 then IO.println words else IO.eprintln words
  return code

def start (c : FabricConfig) : IO UInt32 := do
  let s ← surroundings c
  match Node.start c s with
  | .error e => give 1 ("Error: " ++ e.message)
  | .ok node =>
    let ingress := (s.host.bindAddress c.dataInterface).toOption.bind fun ip =>
      endpoint? ⟨ip, 0, c.dataPort⟩
    let clients := (SocketAddress.parse? c.rpcAddress.toList).bind endpoint?
    match ingress, clients with
    | some ingress, some clients =>
      try
        (run c node ingress clients).block
        return 0
      catch e => give 1 ("Error: " ++ e.toString)
    | _, _ => give 1 ("Error: " ++ (StartupError.rpcAddress c.rpcAddress).message)

def main (args : List String) : IO UInt32 := do
  let vars ← environment
  let logs ← match vars.get? Logging.fileVariable with
    | some path => readText? path
    | none => pure none
  match Logging.LogConfig.load logs, Flags.parse args vars with
  | .error path, _ => give 1 ("Error: cannot read the logging settings at " ++ path.text)
  | _, .error .help => give 0 Flags.usage
  | _, .error .version => give 0 Flags.version
  | _, .error e => give 2 ("error: " ++ e.kind ++ "\n\n" ++ Flags.usage)
  | .ok _, .ok flags =>
    let file ← match flags.config with
      | some path => readText? path
      | none => pure none
    match FabricConfig.load file vars with
    | .error e => give 1 ("Error: " ++ e.message)
    | .ok c =>
      match (flags.apply c).validate with
      | .error e => give 1 ("Error: " ++ e.message)
      | .ok c => start c

end NumaFabric.Program

def main (args : List String) : IO UInt32 := NumaFabric.Program.main args
