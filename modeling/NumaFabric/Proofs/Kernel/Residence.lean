import NumaFabric.Kernel.Cache
import NumaFabric.Proofs.Store.Floor

namespace NumaFabric

inductive Consultation (μ φ : Type) where
  | module (name : String) (answer : Except CacheError μ)
  | function (module : μ) (name : String) (answer : Except CacheError φ)

def Loader.recorded {σ μ φ : Type} (l : Loader σ μ φ) :
    Loader (σ × List (Consultation μ φ)) μ φ where
  loadModule name s :=
    ((l.loadModule name s.1).1, (l.loadModule name s.1).2,
      s.2 ++ [.module name (l.loadModule name s.1).1])
  resolve m name s :=
    ((l.resolve m name s.1).1, (l.resolve m name s.1).2,
      s.2 ++ [.function m name (l.resolve m name s.1).1])

structure Wanted where
  handle : UInt64
  module : String
  function : String
deriving DecidableEq

namespace Consultation

variable {μ φ : Type}

/-- The module of that name, if this is where it was loaded. -/
def loadedAs? (name : String) : Consultation μ φ → Option μ
  | module n (.ok m) => if n = name then some m else none
  | _ => none

def resolved? : Consultation μ φ → Option (μ × φ)
  | function m _ (.ok f) => some (m, f)
  | _ => none

end Consultation

namespace KernelCache

variable {σ μ φ : Type} {c c' : KernelCache μ φ} {asked : List (Consultation μ φ)}

structure Within (c c' : KernelCache μ φ) : Prop where
  functions : ∀ handle e, c.functions.get? handle = some e → c'.functions.get? handle = some e
  modules : ∀ name m, c.modules.get? name = some m → c'.modules.get? name = some m

theorem Within.refl (c : KernelCache μ φ) : c.Within c := ⟨fun _ _ h => h, fun _ _ h => h⟩

theorem Within.trans {c'' : KernelCache μ φ} (h : c.Within c') (h' : c'.Within c'') :
    c.Within c'' :=
  ⟨fun handle e he => h'.functions handle e (h.functions handle e he),
    fun name m hm => h'.modules name m (h.modules name m hm)⟩

theorem get?_eq_none_iff {handle : UInt64} :
    c.get? handle = none ↔ c.functions.get? handle = none := Option.map_eq_none_iff

inductive Resident (c : KernelCache μ φ) (module : String) :
    μ → KernelCache μ φ → List (Consultation μ φ) → Prop
  | kept {m : μ} : c.modules.get? module = some m → Resident c module m c []
  | loaded {m : μ} : c.modules.get? module = none →
      Resident c module m { c with modules := c.modules.insert module m } [.module module (.ok m)]

/-- How the second part of a call can end: its answer, the cache after it, and what it asked. -/
inductive Loads (c : KernelCache μ φ) (w : Wanted) :
    Except CacheError φ → KernelCache μ φ → List (Consultation μ φ) → Prop
  | hit {f : φ} : c.get? w.handle = some f → Loads c w (.ok f) c []
  | noModule {e : CacheError} : c.functions.get? w.handle = none →
      c.modules.get? w.module = none → Loads c w (.error e) c [.module w.module (.error e)]
  | noFunction {m : μ} {c' : KernelCache μ φ} {asked : List (Consultation μ φ)}
      {e : CacheError} : c.functions.get? w.handle = none → Resident c w.module m c' asked →
      Loads c w (.error e) c' (asked ++ [.function m w.function (.error e)])
  | found {m : μ} {c' : KernelCache μ φ} {asked : List (Consultation μ φ)} {f : φ} :
      c.functions.get? w.handle = none → Resident c w.module m c' asked →
      Loads c w (.ok f)
        { c' with functions := c'.functions.insert w.handle ⟨w.module, f⟩ }
        (asked ++ [.function m w.function (.ok f)])

def consult (l : Loader σ μ φ) (c : KernelCache μ φ) (w : Wanted) (s : σ) :
    Except CacheError φ × KernelCache μ φ × σ × List (Consultation μ φ) :=
  c.load l.recorded w.handle w.module w.function (s, [])

theorem residentModule_recorded_cases (l : Loader σ μ φ) (c : KernelCache μ φ) (module : String)
    (s : σ) :
    (∃ m c' s' asked, c.residentModule l.recorded module (s, []) = (.ok m, c', s', asked) ∧
      c.residentModule l module s = (.ok m, c', s') ∧ Resident c module m c' asked) ∨
    (∃ e s', c.residentModule l.recorded module (s, []) =
        (.error e, c, s', [.module module (.error e)]) ∧
      c.residentModule l module s = (.error e, c, s') ∧ c.modules.get? module = none) := by
  unfold residentModule
  cases hget : c.modules.get? module with
  | some m => exact .inl ⟨m, c, s, [], rfl, rfl, .kept hget⟩
  | none =>
      simp only [Loader.recorded, List.nil_append]
      cases hload : l.loadModule module s with
      | mk answer s' =>
          cases answer with
          | ok m => exact .inl ⟨m, _, s', _, rfl, rfl, .loaded hget⟩
          | error e => exact .inr ⟨e, s', rfl, rfl, trivial⟩

theorem consult_spec (l : Loader σ μ φ) (c : KernelCache μ φ) (w : Wanted) (s : σ) :
    ∃ answer c' s' asked, c.consult l w s = (answer, c', s', asked) ∧
      c.load l w.handle w.module w.function s = (answer, c', s') ∧ Loads c w answer c' asked := by
  unfold consult load
  cases hget : c.get? w.handle with
  | some f => exact ⟨.ok f, c, s, [], rfl, rfl, .hit hget⟩
  | none =>
      have hmissing := get?_eq_none_iff.mp hget
      obtain ⟨m, c', s', asked, hrecorded, hplain, hresident⟩ | ⟨e, s', hrecorded, hplain, hnone⟩ :=
        c.residentModule_recorded_cases l w.module s
      · simp only [hrecorded, hplain]
        simp only [Loader.recorded]
        cases hresolve : l.resolve m w.function s' with
        | mk answer s'' =>
            cases answer with
            | ok f => exact ⟨_, _, s'', _, rfl, rfl, .found hmissing hresident⟩
            | error e => exact ⟨_, _, s'', _, rfl, rfl, .noFunction hmissing hresident⟩
      · simp only [hrecorded, hplain]
        exact ⟨.error e, c, s', _, rfl, rfl, .noModule hmissing hnone⟩

theorem loads_consult (l : Loader σ μ φ) (c : KernelCache μ φ) (w : Wanted) (s : σ) :
    Loads c w (c.consult l w s).1 (c.consult l w s).2.1 (c.consult l w s).2.2.2 := by
  obtain ⟨_, _, _, _, hconsult, -, hloads⟩ := c.consult_spec l w s
  rw [hconsult]
  exact hloads

/-- The two looks of a call find the same when nothing comes between them. -/
theorem getOrLoad_eq_load (l : Loader σ μ φ) (c : KernelCache μ φ) (handle : UInt64)
    (module function : String) (s : σ) :
    c.getOrLoad l handle module function s = c.load l handle module function s := by
  unfold getOrLoad load
  cases c.get? handle <;> rfl

/-- The loader supplies a function for a cache without it: the module is resident or else is loaded,
and the function is found in it. -/
def Supplies (l : Loader σ μ φ) (c : KernelCache μ φ) (w : Wanted) (s : σ) (f : φ) : Prop :=
  (∃ m, c.modules.get? w.module = some m ∧ (l.resolve m w.function s).1 = .ok f) ∨
    c.modules.get? w.module = none ∧
      ∃ m s', l.loadModule w.module s = (.ok m, s') ∧ (l.resolve m w.function s').1 = .ok f

theorem getOrLoad_fst_eq_ok_iff (l : Loader σ μ φ) (c : KernelCache μ φ) (w : Wanted) (s : σ)
    {f : φ} :
    (c.getOrLoad l w.handle w.module w.function s).1 = .ok f ↔
      c.get? w.handle = some f ∨ c.get? w.handle = none ∧ c.Supplies l w s f := by
  rw [getOrLoad_eq_load, load]
  cases hget : c.get? w.handle with
  | some f' => simp
  | none =>
      simp only [residentModule, Supplies]
      cases hmodule : c.modules.get? w.module with
      | some m =>
          cases hresolve : l.resolve m w.function s with
          | mk answer s' => cases answer <;> simp [hresolve]
      | none =>
          cases hload : l.loadModule w.module s with
          | mk answer s' =>
              cases answer with
              | error e => simp
              | ok m =>
                  cases hresolve : l.resolve m w.function s' with
                  | mk answer s'' => cases answer <;> simp [hresolve, and_assoc]

section Resident

variable {module : String} {m : μ}

theorem Resident.functions (h : Resident c module m c' asked) : c'.functions = c.functions := by
  cases h <;> rfl

theorem Resident.get?_module (h : Resident c module m c' asked) :
    c'.modules.get? module = some m := by
  cases h with
  | kept hget => exact hget
  | loaded _ => exact OrderedMap.get?_insert_self ..

theorem Resident.modules (h : Resident c module m c' asked) (name : String) :
    (c'.modules.get? name).toList =
      (c.modules.get? name).toList ++ asked.filterMap (Consultation.loadedAs? name) := by
  cases h with
  | kept _ => exact (List.append_nil _).symm
  | loaded hnone =>
      by_cases hname : module = name
      · subst hname
        simp [hnone, Consultation.loadedAs?]
      · simp [OrderedMap.get?_insert_of_ne _ _ hname, Consultation.loadedAs?, hname]

theorem Resident.resolved (h : Resident c module m c' asked) :
    asked.filterMap Consultation.resolved? = [] := by
  cases h <;> rfl

end Resident

section Loads

variable {w : Wanted} {answer : Except CacheError φ}

theorem Loads.modules (h : Loads c w answer c' asked) (name : String) :
    (c'.modules.get? name).toList =
      (c.modules.get? name).toList ++ asked.filterMap (Consultation.loadedAs? name) := by
  cases h with
  | hit _ => exact (List.append_nil _).symm
  | noModule _ _ => exact (List.append_nil _).symm
  | noFunction _ hresident =>
      rw [hresident.modules, List.filterMap_append]
      exact congrArg _ (List.append_nil _).symm
  | found _ hresident =>
      rw [hresident.modules, List.filterMap_append]
      exact congrArg _ (List.append_nil _).symm

theorem Loads.get?_of_ne (h : Loads c w answer c' asked) {handle : UInt64}
    (hne : w.handle ≠ handle) : c'.functions.get? handle = c.functions.get? handle := by
  cases h with
  | hit _ => rfl
  | noModule _ _ => rfl
  | noFunction _ hresident => rw [hresident.functions]
  | found _ hresident => rw [OrderedMap.get?_insert_of_ne _ _ hne, hresident.functions]

theorem Loads.resolved_cases (h : Loads c w answer c' asked) :
    (asked.filterMap Consultation.resolved? = [] ∧
      c'.functions.get? w.handle = c.functions.get? w.handle) ∨
    ∃ m f, asked.filterMap Consultation.resolved? = [(m, f)] ∧
      c.functions.get? w.handle = none ∧ c'.functions.get? w.handle = some ⟨w.module, f⟩ ∧
      c'.modules.get? w.module = some m := by
  cases h with
  | hit _ => exact .inl ⟨rfl, rfl⟩
  | noModule _ _ => exact .inl ⟨rfl, rfl⟩
  | noFunction _ hresident =>
      refine .inl ⟨?_, by rw [hresident.functions]⟩
      rw [List.filterMap_append, hresident.resolved]
      rfl
  | @found m _ _ f hnone hresident =>
      refine .inr ⟨m, f, ?_, hnone, OrderedMap.get?_insert_self .., hresident.get?_module⟩
      rw [List.filterMap_append, hresident.resolved]
      rfl

theorem Loads.get?_of_ok {f : φ} (h : Loads c w (.ok f) c' asked) :
    c'.get? w.handle = some f := by
  cases h with
  | hit hget => exact hget
  | found _ _ => rw [get?, OrderedMap.get?_insert_self, Option.map_some]

theorem Loads.within (h : Loads c w answer c' asked) : c.Within c' := by
  constructor
  · intro handle e he
    by_cases hhandle : w.handle = handle
    · subst hhandle
      obtain ⟨-, hsame⟩ | ⟨_, _, -, hnone, -, -⟩ := h.resolved_cases
      · rw [hsame, he]
      · rw [hnone] at he
        cases he
    · rw [h.get?_of_ne hhandle, he]
  · intro name m hm
    have hlist := h.modules name
    rw [hm, Option.toList_some, List.singleton_append] at hlist
    cases hget : c'.modules.get? name with
    | none =>
        rw [hget] at hlist
        cases hlist
    | some m' =>
        rw [hget] at hlist
        rw [(List.cons.inj hlist).1]

end Loads

end KernelCache

end NumaFabric
