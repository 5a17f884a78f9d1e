import NumaFabric.Rpc.Framing
import NumaFabric.Rpc.Message
/-!
Sessions of clients with a node's services. A session has an id of its own from the start; a name
announced in the first request takes its place. Every message gets one response. When a session ends
without a name its GPUs are released; those of a name stay with it.
-/

namespace NumaFabric.Rpc

structure Session where
  client : ClientId
  named : Bool
  /-- A request was read. -/
  greeted : Bool
deriving DecidableEq

namespace Session

def new (id : ClientId) : Session := ⟨id, false, false⟩

def invalidRequest (message : String) : Response := .error "invalid_request" message

def lateHello : String := "hello must be the first message"

/-- Stands for the reader's account of what it cannot read. Its wording is not modelled. -/
def malformed : String := "malformed request"

/-- Stands for the runtime's account of a task that broke down. Its wording is not modelled. -/
def brokeDown : String := "the request broke down"

variable {lk dev : Type}

def respond {α : Type} (f : α → Response) : Except ServiceError α → Response
  | .ok a => f a
  | .error e =>
    match e.breakdown? with
    | some _ => .error "internal" brokeDown
    | none => .error e.code e.message

def greet (s : Session) : Option String → Session
  | some name => if name.isEmpty then s else { s with client := name, named := true }
  | none => s

/-- Carries out a request for a session that had read one before (`late`) or not. -/
def perform (b : Backend lk dev) (late : Bool) (s : Session) (services : Service lk dev) :
    Request → Response × Session × Service lk dev
  | .hello name =>
    if late then (invalidRequest lateHello, s, services)
    else
      let s := s.greet name
      (.welcome s.client, s, services)
  | .listGpus => (.gpus services.scheduler.list, s, services)
  | .gpuStatus uuid => (respond .status (services.gpuStatus uuid), s, services)
  | .acquireGpu uuid =>
    let (r, services) := services.acquireGpu s.client uuid
    (respond (fun _ => .ack) r, s, services)
  | .releaseGpu uuid =>
    let (r, services) := services.releaseGpu s.client uuid
    (respond (fun _ => .ack) r, s, services)
  | .runCommand command streamHandle =>
    let (r, services) := services.runCommand b command streamHandle
    (respond .commandResult r, s, services)
  | .launchKernel launch =>
    let (r, services) := services.launchKernel b launch
    (respond (fun _ => .ack) r, s, services)

/-- Answers one message. One that cannot be read changes nothing. -/
def answer (b : Backend lk dev) (s : Session) (services : Service lk dev) (message : List UInt8) :
    Response × Session × Service lk dev :=
  match Request.decode? message with
  | none => (invalidRequest malformed, s, services)
  | some request => perform b s.greeted { s with greeted := true } services request

def finish (s : Session) (services : Service lk dev) : Service lk dev :=
  if s.named then services
  else { services with scheduler := (services.scheduler.releaseAll s.client).2 }

end Session

structure Connection where
  session : Session
  reader : FrameReader

structure Server (lk dev : Type) where
  services : Service lk dev
  connections : OrderedMap Nat Connection
  opened : Nat

namespace Server

variable {lk dev : Type}

def new (services : Service lk dev) : Server lk dev := ⟨services, .empty, 0⟩

/-- Opens a session; `ids` gives every session an id of its own. -/
def connect (ids : Nat → ClientId) (s : Server lk dev) (connection : Nat) : Server lk dev :=
  { s with
    connections := s.connections.insert connection ⟨.new (ids s.opened), .empty⟩
    opened := s.opened + 1 }

def receive (b : Backend lk dev) (s : Server lk dev) (connection : Nat) (message : List UInt8) :
    Option Response × Server lk dev :=
  match s.connections.get? connection with
  | none => (none, s)
  | some c =>
    let (response, session, services) := c.session.answer b s.services message
    (some response,
      { s with services, connections := s.connections.insert connection { c with session } })

def disconnect (s : Server lk dev) (connection : Nat) : Server lk dev :=
  match s.connections.get? connection with
  | none => s
  | some c =>
    { s with
      services := c.session.finish s.services
      connections := s.connections.erase connection }

def receiveAll (b : Backend lk dev) (s : Server lk dev) (connection : Nat) :
    List (List UInt8) → List Response × Server lk dev
  | [] => ([], s)
  | message :: rest =>
    let (response, s) := s.receive b connection message
    let (responses, s) := receiveAll b s connection rest
    (response.toList ++ responses, s)

/-- Takes the last bytes of a stream: answers the messages in them, then ends the session. -/
def finishStream (b : Backend lk dev) (s : Server lk dev) (connection : Nat) (bytes : List UInt8) :
    List Response × Server lk dev :=
  match s.connections.get? connection with
  | none => ([], s)
  | some c =>
    let (responses, s) := s.receiveAll b connection (c.reader.feed bytes).frames.1
    (responses, s.disconnect connection)

def shutdown (s : Server lk dev) : Server lk dev := s.connections.keys.foldl disconnect s

end Server

end NumaFabric.Rpc
