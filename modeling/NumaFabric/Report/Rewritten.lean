import NumaFabric.Report.Outcome

namespace NumaFabric

open NumaFabric.Text NumaFabric.Wire

/-- The text as a value of that type, if it is one. -/
def rewritten? (type : String) (text : String) : Option Json := do
  if type == "NewNumaNode" then
    return (NumaNode.new (.ofNat (← unsigned? UInt32.size text.toList))).toJson
  let j ← Json.parse? text
  let as {α : Type} [Told α] (read : Json → Option α) : Option Json := tell <$> read j
  match type with
  | "AddressRange" => as AddressRange.ofJson?
  | "AddressHandle" => as Json.toUInt64?
  | "NodeId" => as Json.toUInt32?
  | "NumaNode" => as NumaNode.ofJson?
  | "MemoryRegion" => as Region.ofJson?
  | "Operation" => as Operation.ofJson?
  | "TransportConfig" => as TransportConfig.ofJson?
  | "TransportSettings" => as TransportSettings.ofJson?
  | "FabricConfig" => as FabricConfig.ofJson?
  | "Ownership" => as Ownership.ofJson?
  | "ClientId" => as Json.toString?
  | "GpuInfo" => as GpuInfo.ofJson?
  | "GpuStatus" => as GpuStatus.ofJson?
  | "CommandResponse" => as CommandResponse.ofJson?
  | "KernelLaunch" => as KernelLaunch.ofJson?
  | "RpcRequest" => as Rpc.Request.ofJson?
  | _ => as Rpc.Response.ofJson?

end NumaFabric
