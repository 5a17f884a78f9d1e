import NumaFabric.Proofs.Json.Records
import NumaFabric.Proofs.Net.Rendered
import NumaFabric.Proofs.Text.Base64
import NumaFabric.Proofs.Text.Utf8
import NumaFabric.Rpc.Message

namespace NumaFabric

open NumaFabric.Text

@[simp] theorem KernelLaunch.ofBase64?_base64Json (bytes : List UInt8) :
    ofBase64? (base64Json bytes) = some bytes := by
  simp [ofBase64?, base64Json, base64Decode?_base64Encode]

@[simp] theorem Dims.ofJson?_toJson (d : Dims) : ofJson? d.toJson = some d := by
  have hlist : d.toJson.toList? Json.toUInt32? = some d.toList :=
    Json.toList?_ofList Json.toUInt32?_ofNat d.toList
  rw [ofJson?, hlist]
  rfl

@[simp] theorem CommandResponse.address?_text (ip : IpAddress) :
    address? (.str ip.text) = some ip := by
  simp [address?, IpAddress.text, IpAddress.parse?_render]

/-! Records in messages, with and without the fields that may be left out. -/

section

open Json.Record

theorem CommandResponse.ofJson?_fields (r : CommandResponse) :
    ofJson? (.obj r.fields) = some r := by
  obtain ⟨streamHandle, node, _ | ip⟩ := r <;>
    rw [ofJson?, Json.record?_obj (by simp [fields]) (by simp [fields])] <;>
    simp [fields, required, defaulted]

theorem KernelLaunch.ofJson?_fields (l : KernelLaunch) : ofJson? (.obj l.fields) = some l := by
  obtain ⟨name, grid, block, sharedMemory, params, handle, flags, _ | module⟩ := l <;>
    rw [ofJson?, Json.record?_obj (by simp [fields]) (by simp [fields])] <;>
    simp [fields, required, defaulted]

theorem GpuInfo.ofJson?_toJson (g : GpuInfo) : ofJson? g.toJson = some g := by
  obtain ⟨uuid, name, total, free, _ | owner⟩ := g <;>
    rw [toJson, ofJson?, Json.record?_obj (by simp [ownerField]) (by simp [ownerField])] <;>
    simp [ownerField, required, defaulted]

theorem GpuStatus.ofJson?_toJson (g : GpuStatus) : ofJson? g.toJson = some g := by
  obtain ⟨uuid, available, _ | owner, free, total⟩ := g <;>
    rw [toJson, ofJson?, Json.record?_obj (by simp [ownerField]) (by simp [ownerField])] <;>
    simp [ownerField, required, defaulted, Json.toBool?]

end

/-! How deep messages are. -/

@[simp] theorem Dims.isShallow_toJson (n : Nat) (d : Dims) : d.toJson.IsShallow (n + 1) := by
  simp [toJson]

@[simp] theorem KernelLaunch.isShallow_base64Json (n : Nat) (bytes : List UInt8) :
    (base64Json bytes).IsShallow n := by
  simp [base64Json]

@[simp] theorem GpuInfo.isShallow_toJson (n : Nat) (g : GpuInfo) : g.toJson.IsShallow (n + 1) := by
  simp [toJson, ownerField]

@[simp] theorem GpuStatus.isShallow_toJson (n : Nat) (g : GpuStatus) :
    g.toJson.IsShallow (n + 1) := by
  obtain ⟨uuid, available, _ | owner, free, total⟩ := g <;> simp [toJson, ownerField]

theorem CommandResponse.isShallow_fields (n : Nat) (r : CommandResponse) :
    ∀ f ∈ r.fields, f.2.IsShallow n := by
  obtain ⟨streamHandle, node, _ | ip⟩ := r <;> simp [fields]

namespace Rpc

namespace Request

theorem isShallow_toJson (r : Request) : r.toJson.IsShallow 2 := by
  cases r <;> simp [toJson, fields, KernelLaunch.fields]

theorem ne_of_mem_fields (r : Request) : ∀ f ∈ r.fields, f.1 ≠ "method" := by
  cases r <;> simp [fields, KernelLaunch.fields]

theorem tagged?_toJson (r : Request) :
    Json.tagged? "method" r.toJson = some (r.method, .obj r.fields) :=
  Json.tagged?_obj (r.isShallow_toJson.mono (by decide)) r.ne_of_mem_fields

theorem ofJson?_toJson (r : Request) : ofJson? r.toJson = some r := by
  rw [ofJson?, tagged?_toJson]
  cases r with
  | hello name => simp [method, fields, Json.record?_obj, Json.Record.defaulted]
  | listGpus => rfl
  | gpuStatus uuid | acquireGpu uuid | releaseGpu uuid =>
      simp [method, fields, uuid?, Json.record?_obj, Json.Record.required]
  | runCommand command streamHandle =>
      simp [method, fields, Json.record?_obj, Json.Record.required, Json.Record.defaulted]
  | launchKernel launch => simp [method, fields, KernelLaunch.ofJson?_fields]

theorem decode?_encode (r : Request) : decode? r.encode = some r := by
  simp [decode?, encode, utf8Decode?_utf8Encode, Json.parse?_text r.isShallow_toJson.1,
    ofJson?_toJson]

end Request

namespace Response

theorem isShallow_toJson (r : Response) : r.toJson.IsShallow 3 := by
  cases r with
  | commandResult result =>
      simp only [toJson, fields, Json.isShallow_obj_succ, List.forall_mem_cons]
      exact ⟨Json.isShallow_str 2 _, result.isShallow_fields 2⟩
  | _ => simp [toJson, fields]

theorem ne_of_mem_fields (r : Response) : ∀ f ∈ r.fields, f.1 ≠ "kind" := by
  cases r <;> simp [fields, CommandResponse.fields]

theorem tagged?_toJson (r : Response) :
    Json.tagged? "kind" r.toJson = some (r.kind, .obj r.fields) :=
  Json.tagged?_obj (r.isShallow_toJson.mono (by decide)) r.ne_of_mem_fields

theorem ofJson?_toJson (r : Response) : ofJson? r.toJson = some r := by
  rw [ofJson?, tagged?_toJson]
  cases r with
  | welcome client => simp [kind, fields, Json.record?_obj, Json.Record.required]
  | gpus devices =>
      simp [kind, fields, Json.record?_obj, Json.Record.required,
        Json.toList?_ofList GpuInfo.ofJson?_toJson]
  | status s =>
      simp [kind, fields, Json.record?_obj, Json.Record.required, GpuStatus.ofJson?_toJson]
  | ack => rfl
  | commandResult result => simp [kind, fields, CommandResponse.ofJson?_fields]
  | error code message => simp [kind, fields, Json.record?_obj, Json.Record.required]

theorem decode?_encode (r : Response) : decode? r.encode = some r := by
  simp [decode?, encode, utf8Decode?_utf8Encode, Json.parse?_text r.isShallow_toJson.1,
    ofJson?_toJson]

end Response

theorem messages_read_back :
    (∀ r : Request, Request.decode? r.encode = some r) ∧
      ∀ r : Response, Response.decode? r.encode = some r :=
  ⟨Request.decode?_encode, Response.decode?_encode⟩

end Rpc

end NumaFabric
