import NumaFabric.Net.Host
import NumaFabric.Rpc.Server

namespace NumaFabric.Rpc

open NumaFabric.Wire

inductive ClientError where
  | transport (cause : SystemError)
  | malformed
  | connectionClosed
  | remote (code message : String)
  | unexpected (method : String)
deriving DecidableEq

namespace ClientError

def kind : ClientError → String
  | transport _ => "Io"
  | malformed => "Json"
  | connectionClosed => "ConnectionClosed"
  | remote _ _ => "Remote"
  | unexpected _ => "UnexpectedResponse"

def closedMessage : String := "connection closed by peer"

end ClientError

/-- Reads a reply, or notes that there is none. -/
def readReply : Option (List UInt8) → Except ClientError Response
  | none => .error .connectionClosed
  | some bytes =>
    match Response.decode? bytes with
    | none => .error .malformed
    | some (.error code message) => .error (.remote code message)
    | some response => .ok response

namespace Response

def welcome? : Response → Except ClientError ClientId
  | welcome client => .ok client
  | _ => .error (.unexpected "hello")

def gpus? : Response → Except ClientError (List GpuInfo)
  | gpus l => .ok l
  | _ => .error (.unexpected "list_gpus")

def status? : Response → Except ClientError GpuStatus
  | status s => .ok s
  | _ => .error (.unexpected "get_gpu_status")

def commandResult? : Response → Except ClientError CommandResponse
  | commandResult r => .ok r
  | _ => .error (.unexpected "run_command")

def ack? (method : String) : Response → Except ClientError Unit
  | ack => .ok ()
  | _ => .error (.unexpected method)

end Response

def commandRequest (c : Command) (streamHandle : UInt64) : Except ClientError Request :=
  match encodeFramed c with
  | .ok frame => .ok (.runCommand frame streamHandle)
  | .error e => .error (.remote "bad_command" e.message)

def callResult (request : Request) (reply : Option (List UInt8)) : Except ClientError Json := do
  let response ← readReply reply
  match request with
  | .hello _ => return response.toJson
  | .listGpus => return Json.ofList GpuInfo.toJson (← response.gpus?)
  | .gpuStatus _ => return (← response.status?).toJson
  | .runCommand _ _ => return (← response.commandResult?).toJson
  | .acquireGpu _ | .releaseGpu _ | .launchKernel _ =>
    response.ack? request.method
    return .null

/-- What the reply to a client's first request makes of it. -/
def opened? (reply : Option (List UInt8)) : Except ClientError ClientId := do
  (← readReply reply).welcome?

namespace Server

variable {lk dev : Type}

/-- Connects a client on the server's own machine. -/
def dial (host : Host) (ids : Nat → ClientId) (s : Server lk dev) (connection : Nat) :
    Except SystemError (Server lk dev) := do
  host.reach
  return s.connect ids connection

def exchange (b : Backend lk dev) (s : Server lk dev) (connection : Nat) (request : Request) :
    Option (List UInt8) × Server lk dev :=
  let (response, s) := s.receive b connection request.encode
  (response.map Response.encode, s)

def openSession (host : Host) (ids : Nat → ClientId) (b : Backend lk dev) (s : Server lk dev)
    (connection : Nat) (name : Option String) : Except ClientError ClientId × Server lk dev :=
  match s.dial host ids connection with
  | .error e => (.error (.transport e), s)
  | .ok s =>
    let (reply, s) := s.exchange b connection (.hello name)
    (opened? reply, s)

end Server

end NumaFabric.Rpc
