import NumaFabric.Ingress.BufferPool
import NumaFabric.Json.Reader
import NumaFabric.Kernel.Cache
import NumaFabric.Text.Base64

namespace NumaFabric

open NumaFabric.Text

structure Dims where
  x : UInt32
  y : UInt32
  z : UInt32
deriving DecidableEq

namespace Dims

def toList (d : Dims) : List UInt32 := [d.x, d.y, d.z]

def toJson (d : Dims) : Json := Json.ofList (fun n => .ofNat n.toNat) d.toList

def ofJson? (j : Json) : Option Dims :=
  match j.toList? Json.toUInt32? with
  | some [x, y, z] => some ⟨x, y, z⟩
  | _ => none

def text (d : Dims) : String :=
  "[" ++ ", ".intercalate (d.toList.map fun n => toString n.toNat) ++ "]"

def HasZero (d : Dims) : Prop := d.x = 0 ∨ d.y = 0 ∨ d.z = 0

instance (d : Dims) : Decidable d.HasZero := inferInstanceAs (Decidable (_ ∨ _))

end Dims

structure KernelLaunch where
  name : String
  grid : Dims
  block : Dims
  sharedMemory : UInt32
  params : List UInt8
  handle : UInt64
  flags : UInt32
  module : Option String
deriving DecidableEq

namespace KernelLaunch

def base64Json (bytes : List UInt8) : Json := .str (String.ofList (base64Encode bytes))

def ofBase64? (j : Json) : Option (List UInt8) := j.toString?.bind fun s => base64Decode? s.toList

def fields (l : KernelLaunch) : List (String × Json) :=
  [("name", .str l.name), ("grid_dims", l.grid.toJson), ("block_dims", l.block.toJson),
    ("shared_mem_bytes", .ofNat l.sharedMemory.toNat), ("params", base64Json l.params),
    ("func_handle", .ofNat l.handle.toNat), ("flags", .ofNat l.flags.toNat)] ++
    l.module.toList.map fun m => ("module", .str m)

def toJson (l : KernelLaunch) : Json := .obj l.fields

def ofJson? (j : Json) : Option KernelLaunch := do
  let r ← j.record? ["name", "grid_dims", "block_dims", "shared_mem_bytes", "params",
    "func_handle", "flags", "module"]
  return ⟨← r.required "name" Json.toString?, ← r.required "grid_dims" Dims.ofJson?,
    ← r.required "block_dims" Dims.ofJson?, ← r.defaulted "shared_mem_bytes" 0 Json.toUInt32?,
    ← r.required "params" ofBase64?, ← r.required "func_handle" Json.toUInt64?,
    ← r.defaulted "flags" 0 Json.toUInt32?,
    ← r.defaulted "module" none (Json.toOption? Json.toString?)⟩

end KernelLaunch

inductive LaunchError where
  | invalid (reason : String)
  | cache (cause : CacheError)
  | execution (name reason : String)
  | breakdown (words : String)
deriving DecidableEq

namespace LaunchError

def kind : LaunchError → String
  | invalid _ => "Invalid"
  | cache _ => "Cache"
  | execution _ _ => "Execution"
  | breakdown _ => "Breakdown"

def message : LaunchError → String
  | invalid reason => "invalid launch: " ++ reason
  | cache cause => cause.message
  | execution name reason => "kernel " ++ name ++ " failed to launch: " ++ reason
  | breakdown words => words

end LaunchError

namespace KernelLaunch

def validate (l : KernelLaunch) : Except LaunchError Unit :=
  if l.name.isEmpty then .error (.invalid "kernel name is empty")
  else if l.params.isEmpty then .error (.invalid "kernel parameters are empty")
  else if l.grid.HasZero then
    .error (.invalid ("grid dimensions " ++ l.grid.text ++ " contain zero"))
  else if l.block.HasZero then
    .error (.invalid ("block dimensions " ++ l.block.text ++ " contain zero"))
  else .ok ()

/-- Puts the parameters into a buffer, and zeros after them up to a multiple of eight bytes. -/
def stage (l : KernelLaunch) (buffer : List UInt8) : List UInt8 :=
  let size := (l.params.length + 7) / 8 * 8
  let filled := buffer ++ l.params
  filled.take size ++ List.replicate (size - filled.length) 0

end KernelLaunch

/-- What runs functions `φ`, over a state `ε`. It may fail with any error of a launch. -/
abbrev Executor (ε φ : Type) :=
  φ → KernelLaunch → (params : List UInt8) → ε → Except LaunchError Unit × ε

structure Launcher (μ φ : Type) where
  cache : KernelCache μ φ
  defaultModule : String
  staging : BufferPool

namespace Launcher

variable {σ ε μ φ : Type}

def maxStaging : Nat := 16

def new (defaultModule : String) : Launcher μ φ := ⟨.empty, defaultModule, .new maxStaging⟩

def execute (run : Executor ε φ) (l : Launcher μ φ) (function : φ) (k : KernelLaunch) (e : ε) :
    Except LaunchError Unit × Launcher μ φ × ε :=
  let (buffer, staging) := l.staging.acquire
  let params := k.stage buffer
  let (answer, e) := run function k params e
  (answer, { l with staging := staging.giveBack params }, e)

def launch (loader : Loader σ μ φ) (run : Executor ε φ) (l : Launcher μ φ) (k : KernelLaunch)
    (s : σ) (e : ε) : Except LaunchError Unit × Launcher μ φ × σ × ε :=
  match k.validate with
  | .error x => (.error x, l, s, e)
  | .ok () =>
    match l.cache.getOrLoad loader k.handle (k.module.getD l.defaultModule) k.name s with
    | (.error x, cache, s) => (.error (.cache x), { l with cache }, s, e)
    | (.ok function, cache, s) =>
      let (r, l, e) := ({ l with cache } : Launcher μ φ).execute run function k e
      (r, l, s, e)

end Launcher

end NumaFabric
