import NumaFabric.Proofs.Kernel.SingleLoad

namespace NumaFabric.KernelCache

variable {σ μ φ : Type} {c c' : KernelCache μ φ} {w : Wanted} {asked : List (Consultation μ φ)}

/-- How a call can fail: the cache after it, and what it asked. -/
inductive Fails (c : KernelCache μ φ) (w : Wanted) (e : CacheError) :
    KernelCache μ φ → List (Consultation μ φ) → Prop
  | noModule : c.modules.get? w.module = none → Fails c w e c [.module w.module (.error e)]
  | noFunction {m : μ} : c.modules.get? w.module = some m →
      Fails c w e c [.function m w.function (.error e)]
  | noFunctionInLoaded {m : μ} : c.modules.get? w.module = none →
      Fails c w e { c with modules := c.modules.insert w.module m }
        [.module w.module (.ok m), .function m w.function (.error e)]

theorem Loads.fails {e : CacheError} (h : Loads c w (.error e) c' asked) : Fails c w e c' asked := by
  cases h with
  | noModule _ hnone => exact .noModule hnone
  | noFunction _ hresident =>
      cases hresident with
      | kept hget => exact .noFunction hget
      | loaded hnone => exact .noFunctionInLoaded hnone

theorem Fails.functions {e : CacheError} (h : Fails c w e c' asked) :
    c'.functions = c.functions := by
  cases h <;> rfl

theorem Loads.asked_of_no_module {answer : Except CacheError φ} (h : Loads c w answer c' asked)
    (hhandle : c.functions.get? w.handle = none) (hmodule : c.modules.get? w.module = none) :
    ∃ given rest, asked = .module w.module given :: rest := by
  cases h with
  | hit hget => simp [get?, hhandle] at hget
  | noModule _ _ => exact ⟨_, _, rfl⟩
  | noFunction _ hresident | found _ hresident =>
      cases hresident with
      | kept hget => simp [hmodule] at hget
      | loaded _ => exact ⟨_, _, rfl⟩

theorem Loads.asked_of_module {answer : Except CacheError φ} (h : Loads c w answer c' asked)
    (hhandle : c.functions.get? w.handle = none) {m : μ}
    (hmodule : c.modules.get? w.module = some m) :
    ∃ given, asked = [.function m w.function given] := by
  cases h with
  | hit hget => simp [get?, hhandle] at hget
  | noModule _ hnone => simp [hmodule] at hnone
  | noFunction _ hresident | found _ hresident =>
      cases hresident with
      | kept hget =>
          rw [hmodule] at hget
          cases hget
          exact ⟨_, rfl⟩
      | loaded hnone => simp [hmodule] at hnone

/-- What a call that fails with `e` leaves behind, and what a later call for the same handle and module
asks, whatever happens in between. -/
structure LeftBehind (l : Loader σ μ φ) (c : KernelCache μ φ) (w : Wanted) (s : σ) (e : CacheError)
    (c' : KernelCache μ φ) (s' : σ) : Prop where
  functions : c'.functions = c.functions
  cause : ∃ asked, c.consult l w s = (.error e, c', s', asked) ∧ Fails c w e c' asked
  asks_module : ∀ (missed : List Wanted) (acts : List (Act σ)) (function : String),
    let later := (perform l).after ⟨c', missed, s'⟩ acts
    later.cache.functions.get? w.handle = none → later.cache.modules.get? w.module = none →
      ∃ given rest, (later.cache.consult l ⟨w.handle, w.module, function⟩ later.surroundings).2.2.2 =
        .module w.module given :: rest
  asks_function : ∀ m, c'.modules.get? w.module = some m →
    ∀ (missed : List Wanted) (acts : List (Act σ)) (function : String),
      let later := (perform l).after ⟨c', missed, s'⟩ acts
      later.cache.functions.get? w.handle = none →
        ∃ given, (later.cache.consult l ⟨w.handle, w.module, function⟩ later.surroundings).2.2.2 =
          [.function m function given]

def oneFile : Loader (List String) (List String) String where
  loadModule _ file := (.ok file, file)
  resolve known name file :=
    (if name ∈ known then .ok name else .error (.functionNotFound "default" name), file)

/-- A call that fails for want of a function leaves its module in the cache. -/
theorem not_forall_unchanged_of_getOrLoad_error :
    ¬ ∀ (l : Loader (List String) (List String) String) (c : KernelCache (List String) String)
      (w : Wanted) (s : List String) (e : CacheError) (c' : KernelCache (List String) String)
      (s' : List String), c.getOrLoad l w.handle w.module w.function s = (.error e, c', s') →
        c' = c := by
  intro h
  have hsame := h oneFile .empty ⟨1, "default", "b"⟩ ["a"] _ _ _ rfl
  exact absurd (congrArg (fun c => c.modules.get? "default") hsame) (by decide)

/-- A call that fails adds at most the module that was loaded for it. Later calls ask for the module
only if it is not resident, and for their function in any case. -/
theorem leftBehind_of_getOrLoad_error (l : Loader σ μ φ) (c : KernelCache μ φ) (w : Wanted) (s : σ)
    {e : CacheError} {s' : σ}
    (h : c.getOrLoad l w.handle w.module w.function s = (.error e, c', s')) :
    LeftBehind l c w s e c' s' := by
  obtain ⟨_, _, _, asked, hconsult, hload, hloads⟩ := c.consult_spec l w s
  rw [getOrLoad_eq_load, hload] at h
  cases h
  constructor
  case functions => exact hloads.fails.functions
  case cause => exact ⟨asked, hconsult, hloads.fails⟩
  case asks_module =>
    intro missed acts function later hhandle hmodule
    have hloads := loads_consult l later.cache ⟨w.handle, w.module, function⟩ later.surroundings
    exact hloads.asked_of_no_module hhandle hmodule
  case asks_function =>
    intro m hm missed acts function later hhandle
    -- The module is still resident, whatever came in between.
    have hresident := (within_after l ⟨c', missed, s'⟩ acts).modules w.module m hm
    have hloads := loads_consult l later.cache ⟨w.handle, w.module, function⟩ later.surroundings
    exact hloads.asked_of_module hhandle hresident

theorem leftBehind_oneFile :
    let w : Wanted := ⟨1, "default", "b"⟩
    let failed := (empty : KernelCache (List String) String).getOrLoad oneFile 1 "default" "b" ["a"]
    let later := (perform oneFile).after ⟨failed.2.1, [], failed.2.2⟩ [.drift ["b"]]
    failed.1 = .error (.functionNotFound "default" "b") ∧
      failed.2.1.functions = .empty ∧ failed.2.1.modules.get? "default" = some ["a"] ∧
      ∃ given, (later.cache.consult oneFile w later.surroundings).2.2.2 =
        [.function ["a"] "b" given] := by
  intro w failed later
  have hfailed : (empty : KernelCache (List String) String).getOrLoad oneFile w.handle w.module
      w.function ["a"] = (.error (.functionNotFound "default" "b"), failed.2.1, failed.2.2) := rfl
  have hleft := leftBehind_of_getOrLoad_error oneFile .empty w ["a"] hfailed
  have hmodule : failed.2.1.modules.get? "default" = some ["a"] := by decide
  exact ⟨rfl, hleft.functions, hmodule,
    hleft.asks_function ["a"] hmodule [] [.drift ["b"]] "b" rfl⟩

end NumaFabric.KernelCache
