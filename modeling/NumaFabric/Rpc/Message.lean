import NumaFabric.Control.Service
import NumaFabric.Json.Parser
import NumaFabric.Json.Printer

namespace NumaFabric.Rpc

open NumaFabric.Text

inductive Request where
  /-- Names the session, if it comes first. -/
  | hello (clientName : Option String)
  | listGpus
  | gpuStatus (uuid : String)
  | acquireGpu (uuid : String)
  | releaseGpu (uuid : String)
  /-- The command is a frame. -/
  | runCommand (command : List UInt8) (streamHandle : UInt64)
  | launchKernel (launch : KernelLaunch)
deriving DecidableEq

inductive Response where
  | welcome (client : ClientId)
  | gpus (devices : List GpuInfo)
  | status (status : GpuStatus)
  | ack
  | commandResult (result : CommandResponse)
  | error (code message : String)
deriving DecidableEq

namespace Request

def method : Request → String
  | hello _ => "hello"
  | listGpus => "list_gpus"
  | gpuStatus _ => "get_gpu_status"
  | acquireGpu _ => "acquire_gpu"
  | releaseGpu _ => "release_gpu"
  | runCommand _ _ => "run_command"
  | launchKernel _ => "launch_kernel"

def fields : Request → List (String × Json)
  | hello name => [("client_name", Json.ofOption .str name)]
  | listGpus => []
  | gpuStatus uuid | acquireGpu uuid | releaseGpu uuid => [("uuid", .str uuid)]
  | runCommand command streamHandle =>
    [("command", KernelLaunch.base64Json command),
      ("stream_handle", .ofNat streamHandle.toNat)]
  | launchKernel launch => launch.fields

def toJson (r : Request) : Json := .obj (("method", .str r.method) :: r.fields)

def uuid? (j : Json) : Option String := do (← j.record? ["uuid"]).required "uuid" Json.toString?

def ofJson? (j : Json) : Option Request := do
  let (form, rest) ← Json.tagged? "method" j
  match form with
  | "hello" =>
    let r ← rest.record? ["client_name"]
    return hello (← r.defaulted "client_name" none (Json.toOption? Json.toString?))
  | "list_gpus" => if rest.isBare then return listGpus else none
  | "get_gpu_status" => return gpuStatus (← uuid? rest)
  | "acquire_gpu" => return acquireGpu (← uuid? rest)
  | "release_gpu" => return releaseGpu (← uuid? rest)
  | "run_command" =>
    let r ← rest.record? ["command", "stream_handle"]
    return runCommand (← r.required "command" KernelLaunch.ofBase64?)
      (← r.defaulted "stream_handle" 0 Json.toUInt64?)
  | "launch_kernel" => return launchKernel (← KernelLaunch.ofJson? rest)
  | _ => none

def encode (r : Request) : List UInt8 := utf8Encode r.toJson.text

def decode? (bytes : List UInt8) : Option Request := do
  ofJson? (← Json.parse? (← utf8Decode? bytes))

end Request

namespace Response

def kind : Response → String
  | welcome _ => "welcome"
  | gpus _ => "gpus"
  | status _ => "status"
  | ack => "ack"
  | commandResult _ => "command_result"
  | error _ _ => "error"

def fields : Response → List (String × Json)
  | welcome client => [("client_id", .str client)]
  | gpus devices => [("gpus", Json.ofList GpuInfo.toJson devices)]
  | status s => [("status", s.toJson)]
  | ack => []
  | commandResult result => result.fields
  | error code message => [("code", .str code), ("message", .str message)]

def toJson (r : Response) : Json := .obj (("kind", .str r.kind) :: r.fields)

def ofJson? (j : Json) : Option Response := do
  let (form, rest) ← Json.tagged? "kind" j
  match form with
  | "welcome" =>
    return welcome (← (← rest.record? ["client_id"]).required "client_id" Json.toString?)
  | "gpus" =>
    return gpus (← (← rest.record? ["gpus"]).required "gpus" (Json.toList? GpuInfo.ofJson?))
  | "status" =>
    return status (← (← rest.record? ["status"]).required "status" GpuStatus.ofJson?)
  | "ack" => if rest.isBare then return ack else none
  | "command_result" => return commandResult (← CommandResponse.ofJson? rest)
  | "error" =>
    let r ← rest.record? ["code", "message"]
    return error (← r.required "code" Json.toString?) (← r.required "message" Json.toString?)
  | _ => none

def encode (r : Response) : List UInt8 := utf8Encode r.toJson.text

def decode? (bytes : List UInt8) : Option Response := do
  ofJson? (← Json.parse? (← utf8Decode? bytes))

end Response

end NumaFabric.Rpc
