import NumaFabric.Store.OrderedMap
import NumaFabric.Text.Quoted
/-!
Device functions are found once and kept under a handle, and so are the modules they come from. A
call first looks whether the handle is known; if not, it looks again while nobody else may, and then
loads what is missing. What is cached is never changed or removed.
-/

namespace NumaFabric

inductive CacheError where
  | moduleNotFound (module path : String)
  | moduleLoad (module reason : String)
  | functionNotFound (module function : String)
  | invalidModuleName (name : String)
deriving DecidableEq

namespace CacheError

def kind : CacheError → String
  | moduleNotFound _ _ => "ModuleNotFound"
  | moduleLoad _ _ => "ModuleLoad"
  | functionNotFound _ _ => "FunctionNotFound"
  | invalidModuleName _ => "InvalidModuleName"

def message : CacheError → String
  | moduleNotFound module path => "module " ++ module ++ " not found at " ++ path
  | moduleLoad module reason => "failed to load module " ++ module ++ ": " ++ reason
  | functionNotFound module function =>
    "function " ++ function ++ " not found in module " ++ module
  | invalidModuleName name => "invalid module name " ++ Text.quote name

end CacheError

/-- Where modules `μ` and their functions `φ` come from; the answers may change with a state. -/
structure Loader (σ μ φ : Type) where
  loadModule : String → σ → Except CacheError μ × σ
  resolve : μ → String → σ → Except CacheError φ × σ

structure CachedFunction (φ : Type) where
  module : String
  function : φ

structure KernelCache (μ φ : Type) where
  functions : OrderedMap UInt64 (CachedFunction φ)
  modules : OrderedMap String μ

namespace KernelCache

variable {σ μ φ : Type}

def empty : KernelCache μ φ := ⟨.empty, .empty⟩

def get? (c : KernelCache μ φ) (handle : UInt64) : Option φ :=
  (c.functions.get? handle).map (·.function)

def moduleOf? (c : KernelCache μ φ) (handle : UInt64) : Option String :=
  (c.functions.get? handle).map (·.module)

def residentModule (l : Loader σ μ φ) (c : KernelCache μ φ) (module : String) (s : σ) :
    Except CacheError μ × KernelCache μ φ × σ :=
  match c.modules.get? module with
  | some m => (.ok m, c, s)
  | none =>
    match l.loadModule module s with
    | (.ok m, s) => (.ok m, { c with modules := c.modules.insert module m }, s)
    | (.error e, s) => (.error e, c, s)

/-- The second part of a call, during which nobody else uses the cache. -/
def load (l : Loader σ μ φ) (c : KernelCache μ φ) (handle : UInt64) (module function : String)
    (s : σ) : Except CacheError φ × KernelCache μ φ × σ :=
  match c.get? handle with
  | some f => (.ok f, c, s)
  | none =>
    match c.residentModule l module s with
    | (.error e, c, s) => (.error e, c, s)
    | (.ok m, c, s) =>
      match l.resolve m function s with
      | (.error e, s) => (.error e, c, s)
      | (.ok f, s) =>
        (.ok f, { c with functions := c.functions.insert handle ⟨module, f⟩ }, s)

/-- Both parts of a call, with nothing in between. -/
def getOrLoad (l : Loader σ μ φ) (c : KernelCache μ φ) (handle : UInt64)
    (module function : String) (s : σ) : Except CacheError φ × KernelCache μ φ × σ :=
  match c.get? handle with
  | some f => (.ok f, c, s)
  | none => c.load l handle module function s

end KernelCache

end NumaFabric
