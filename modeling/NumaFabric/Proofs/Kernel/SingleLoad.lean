import NumaFabric.Proofs.Kernel.Residence
import NumaFabric.Proofs.Runs.Transcript
/-!
Calls of several callers to one cache, side by side. Each looks first, and one that finds nothing
comes back later for the part that nobody else may interrupt; in between anything may happen. Main
statement: whatever the loader answers, a module is loaded and a function resolved once at most, and
all callers for a handle get the same function.
-/

namespace NumaFabric.KernelCache

variable {σ μ φ : Type}

structure Shared (σ μ φ : Type) where
  cache : KernelCache μ φ
  /-- Calls that found nothing and have not come to their second part. -/
  missed : List Wanted
  surroundings : σ

inductive Act (σ : Type) where
  | look (w : Wanted)
  | load (index : Nat)
  /-- Something outside changes what the loader will answer. -/
  | drift (surroundings : σ)

inductive Report (μ φ : Type) where
  | answered (w : Wanted) (answer : Except CacheError φ) (asked : List (Consultation μ φ))
  | missed
  | idle

namespace Report

def asked : Report μ φ → List (Consultation μ φ)
  | answered _ _ asked => asked
  | _ => []

def handle? : Report μ φ → Option UInt64
  | answered w _ _ => some w.handle
  | _ => none

end Report

def perform (l : Loader σ μ φ) : Machine (Shared σ μ φ) (Act σ) (Report μ φ)
  | s, .look w =>
    match s.cache.get? w.handle with
    | some f => (.answered w (.ok f) [], s)
    | none => (.missed, { s with missed := s.missed ++ [w] })
  | s, .load index =>
    match s.missed[index]? with
    | none => (.idle, s)
    | some w =>
      let (answer, cache, surroundings, asked) := s.cache.consult l w s.surroundings
      (.answered w answer asked, ⟨cache, s.missed.eraseIdx index, surroundings⟩)
  | s, .drift surroundings => (.idle, { s with surroundings })

def loadedIn (name : String) (log : List (Act σ × Report μ φ)) : List μ :=
  log.flatMap fun e => e.2.asked.filterMap (Consultation.loadedAs? name)

def resolvedBy (handle : UInt64) (r : Report μ φ) : List (μ × φ) :=
  if r.handle? = some handle then r.asked.filterMap Consultation.resolved? else []

def resolvedFor (handle : UInt64) (log : List (Act σ × Report μ φ)) : List (μ × φ) :=
  log.flatMap fun e => resolvedBy handle e.2

def Got (log : List (Act σ × Report μ φ)) (handle : UInt64) (f : φ) : Prop :=
  ∃ act w asked, (act, .answered w (.ok f) asked) ∈ log ∧ w.handle = handle

theorem loadedIn_concat (name : String) (log : List (Act σ × Report μ φ))
    (e : Act σ × Report μ φ) :
    loadedIn name (log ++ [e]) =
      loadedIn name log ++ e.2.asked.filterMap (Consultation.loadedAs? name) := by
  simp [loadedIn]

theorem resolvedFor_concat (handle : UInt64) (log : List (Act σ × Report μ φ))
    (e : Act σ × Report μ φ) :
    resolvedFor handle (log ++ [e]) = resolvedFor handle log ++ resolvedBy handle e.2 := by
  simp [resolvedFor]

theorem resolvedBy_answered (handle : UInt64) (w : Wanted) (answer : Except CacheError φ)
    (asked : List (Consultation μ φ)) :
    resolvedBy handle (.answered w answer asked) =
      if w.handle = handle then asked.filterMap Consultation.resolved? else [] := by
  simp [resolvedBy, Report.handle?, Report.asked]

section

variable (l : Loader σ μ φ) {s : Shared σ μ φ} {w : Wanted}

theorem perform_look_of_get? {f : φ} (h : s.cache.get? w.handle = some f) :
    perform l s (.look w) = (.answered w (.ok f) [], s) := by
  simp only [perform, h]

theorem perform_look_of_missing (h : s.cache.get? w.handle = none) :
    perform l s (.look w) = (.missed, { s with missed := s.missed ++ [w] }) := by
  simp only [perform, h]

theorem perform_load_of_nobody {index : Nat} (h : s.missed[index]? = none) :
    perform l s (.load index) = (.idle, s) := by
  simp only [perform, h]

theorem perform_load_of_waiting {index : Nat} (h : s.missed[index]? = some w) :
    ∃ answer c' s' asked, perform l s (.load index) =
        (.answered w answer asked, ⟨c', s.missed.eraseIdx index, s'⟩) ∧
      s.cache.load l w.handle w.module w.function s.surroundings = (answer, c', s') ∧
      Loads s.cache w answer c' asked := by
  obtain ⟨answer, c', s', asked, hconsult, hload, hloads⟩ := s.cache.consult_spec l w s.surroundings
  refine ⟨answer, c', s', asked, ?_, hload, hloads⟩
  simp only [perform, h, hconsult]

end

/-- All that one act can come to: the cache is as before, and a call is answered from it at most; or
a waiting call has come to its second part. -/
theorem perform_cases (l : Loader σ μ φ) (s : Shared σ μ φ) (act : Act σ) :
    ((perform l s act).2.cache = s.cache ∧ (perform l s act).1.asked = [] ∧
      ∀ w f asked, (perform l s act).1 = .answered w (.ok f) asked →
        s.cache.get? w.handle = some f) ∨
    ∃ w answer asked, (perform l s act).1 = .answered w answer asked ∧
      Loads s.cache w answer (perform l s act).2.cache asked := by
  cases act with
  | look w =>
      left
      cases hget : s.cache.get? w.handle with
      | none =>
          rw [perform_look_of_missing l hget]
          exact ⟨rfl, rfl, fun _ _ _ h => nomatch h⟩
      | some f =>
          rw [perform_look_of_get? l hget]
          refine ⟨rfl, rfl, ?_⟩
          intro _ _ _ h
          cases h
          exact hget
  | load index =>
      cases hcall : s.missed[index]? with
      | none =>
          rw [perform_load_of_nobody l hcall]
          exact .inl ⟨rfl, rfl, fun _ _ _ h => nomatch h⟩
      | some w =>
          obtain ⟨answer, c', s', asked, hperform, -, hloads⟩ := perform_load_of_waiting l hcall
          rw [hperform]
          exact .inr ⟨w, answer, asked, rfl, hloads⟩
  | drift surroundings => exact .inl ⟨rfl, rfl, fun _ _ _ h => nomatch h⟩

theorem within_perform (l : Loader σ μ φ) (s : Shared σ μ φ) (act : Act σ) :
    s.cache.Within (perform l s act).2.cache := by
  obtain ⟨hsame, -, -⟩ | ⟨_, _, _, -, hloads⟩ := perform_cases l s act
  · rw [hsame]
    exact .refl s.cache
  · exact hloads.within

theorem within_after (l : Loader σ μ φ) (s : Shared σ μ φ) (acts : List (Act σ)) :
    s.cache.Within ((perform l).after s acts).cache := by
  induction acts using List.reverseRecOn with
  | nil => exact .refl s.cache
  | append_singleton acts act ih =>
      rw [Machine.after_concat]
      exact ih.trans (within_perform l _ act)

/-- The entry of a handle is accounted for by what was resolved for it. -/
def AccountsFor (c : KernelCache μ φ) (resolved : List (μ × φ)) :
    Option (CachedFunction φ) → Prop
  | none => resolved = []
  | some e => ∃ m, c.modules.get? e.module = some m ∧ resolved = [(m, e.function)]

/-- The cache holds what the loader gave out, each once, and what callers got. -/
structure Traced (log : List (Act σ × Report μ φ)) (c : KernelCache μ φ) : Prop where
  loaded_eq : ∀ name, loadedIn name log = (c.modules.get? name).toList
  accounts : ∀ handle, AccountsFor c (resolvedFor handle log) (c.functions.get? handle)
  cached : ∀ handle f, Got log handle f → c.get? handle = some f

theorem traced_nil : Traced (σ := σ) [] (.empty : KernelCache μ φ) := by
  refine ⟨fun _ => rfl, fun _ => rfl, ?_⟩
  rintro _ _ ⟨_, _, _, hin, -⟩
  cases hin

theorem Within.accountsFor {c c' : KernelCache μ φ} (h : c.Within c') {resolved : List (μ × φ)}
    {entry : Option (CachedFunction φ)} (ha : AccountsFor c resolved entry) :
    AccountsFor c' resolved entry := by
  cases entry with
  | none => exact ha
  | some e =>
      obtain ⟨m, hm, hresolved⟩ := ha
      exact ⟨m, h.modules _ m hm, hresolved⟩

theorem Within.get? {c c' : KernelCache μ φ} (h : c.Within c') {handle : UInt64} {f : φ}
    (hf : c.get? handle = some f) : c'.get? handle = some f := by
  obtain ⟨e, he, rfl⟩ := Option.map_eq_some_iff.mp hf
  rw [KernelCache.get?, h.functions handle e he, Option.map_some]

theorem Loads.accountsFor {c c' : KernelCache μ φ} {w : Wanted} {answer : Except CacheError φ}
    {asked : List (Consultation μ φ)} (h : Loads c w answer c' asked) {handle : UInt64}
    {resolved : List (μ × φ)} (ha : AccountsFor c resolved (c.functions.get? handle)) :
    AccountsFor c' (resolved ++ resolvedBy handle (.answered w answer asked))
      (c'.functions.get? handle) := by
  by_cases hhandle : w.handle = handle
  · subst hhandle
    rw [resolvedBy_answered, if_pos rfl]
    obtain ⟨hnew, hsame⟩ | ⟨m, f, hnew, hnone, hsome, hm⟩ := h.resolved_cases
    · rw [hnew, List.append_nil, hsame]
      exact h.within.accountsFor ha
    · rw [hnone] at ha
      rw [hnew, hsome, show resolved = [] from ha]
      exact ⟨m, hm, rfl⟩
  · rw [resolvedBy_answered, if_neg hhandle, List.append_nil, h.get?_of_ne hhandle]
    exact h.within.accountsFor ha

theorem Traced.perform {log : List (Act σ × Report μ φ)} {s : Shared σ μ φ}
    (h : Traced log s.cache) (l : Loader σ μ φ) (act : Act σ) :
    Traced (log ++ [(act, (perform l s act).1)]) (perform l s act).2.cache := by
  constructor
  case loaded_eq =>
    intro name
    rw [loadedIn_concat, h.loaded_eq]
    obtain ⟨hsame, hnone, -⟩ | ⟨w, answer, asked, hreport, hloads⟩ := perform_cases l s act
    · rw [hsame, hnone]
      exact List.append_nil _
    · rw [hreport, hloads.modules]
      rfl
  case accounts =>
    intro handle
    rw [resolvedFor_concat]
    obtain ⟨hsame, hnone, -⟩ | ⟨w, answer, asked, hreport, hloads⟩ := perform_cases l s act
    · rw [hsame, resolvedBy, hnone, List.filterMap_nil, ite_self, List.append_nil]
      exact h.accounts handle
    · rw [hreport]
      exact hloads.accountsFor (h.accounts handle)
  case cached =>
    rintro handle f ⟨act', w, asked, hin, rfl⟩
    rcases List.mem_append.mp hin with hin | hin
    · exact (within_perform l s act).get? (h.cached w.handle f ⟨act', w, asked, hin, rfl⟩)
    · have hreport : (KernelCache.perform l s act).1 = .answered w (.ok f) asked :=
        (Prod.mk.inj (List.mem_singleton.mp hin)).2.symm
      obtain ⟨hsame, -, hok⟩ | ⟨_, _, _, hother, hloads⟩ := perform_cases l s act
      · rw [hsame]
        exact hok w f asked hreport
      · rw [hreport] at hother
        cases hother
        exact hloads.get?_of_ok

theorem perform_uninterrupted (l : Loader σ μ φ) (s : Shared σ μ φ) (w : Wanted) :
    let whole := s.cache.getOrLoad l w.handle w.module w.function s.surroundings
    (perform l).after s [.look w, .load s.missed.length] = ⟨whole.2.1, s.missed, whole.2.2⟩ ∧
      ∃ act asked, (act, .answered w whole.1 asked) ∈
        (perform l).log s [.look w, .load s.missed.length] := by
  have hlast : (s.missed ++ [w])[s.missed.length]? = some w := List.getElem?_concat_length
  have herase : (s.missed ++ [w]).eraseIdx s.missed.length = s.missed := by
    rw [List.eraseIdx_append_of_length_le (Nat.le_refl _), Nat.sub_self]
    exact List.append_nil _
  simp only [Machine.after, Machine.log, List.foldl_cons, List.foldl_nil, getOrLoad]
  cases hget : s.cache.get? w.handle with
  | some f =>
      have hidle := perform_load_of_nobody l (s := s) (List.getElem?_eq_none (Nat.le_refl _))
      simp only [perform_look_of_get? l hget, hidle]
      exact ⟨trivial, .look w, [], List.mem_cons_self⟩
  | none =>
      obtain ⟨answer, c', s', asked, hperform, hload, -⟩ :=
        perform_load_of_waiting l (s := { s with missed := s.missed ++ [w] }) hlast
      simp only [perform_look_of_missing l hget, hperform, hload, herase]
      exact ⟨trivial, .load s.missed.length, asked, by simp⟩

/-- What holds of a cache and its callers after the acts of `log`, whatever comes next. -/
structure SingleLoad (l : Loader σ μ φ) (log : List (Act σ × Report μ φ)) (s : Shared σ μ φ) :
    Prop where
  same_function : ∀ handle f f', Got log handle f → Got log handle f' → f = f'
  resolved_once : ∀ handle, (resolvedFor handle log).length ≤ 1
  loaded_once : ∀ name, (loadedIn name log).length ≤ 1
  kept : ∀ acts, s.cache.Within ((perform l).after s acts).cache
  origin : ∀ handle e, s.cache.functions.get? handle = some e →
    ∃ m, s.cache.modules.get? e.module = some m ∧ resolvedFor handle log = [(m, e.function)]
  resident : ∀ name m, s.cache.modules.get? name = some m → loadedIn name log = [m]
  /-- What a look finds is what the second part would answer, and it would ask and change nothing. -/
  look_eq_load : ∀ w answer asked, (perform l s (.look w)).1 = .answered w answer asked →
    s.cache.consult l w s.surroundings = (answer, s.cache, s.surroundings, [])
  uninterrupted : ∀ w,
    let whole := s.cache.getOrLoad l w.handle w.module w.function s.surroundings
    (perform l).after s [.look w, .load s.missed.length] = ⟨whole.2.1, s.missed, whole.2.2⟩ ∧
      ∃ act asked, (act, .answered w whole.1 asked) ∈
        (perform l).log s [.look w, .load s.missed.length]

/-- Whatever callers do side by side, and whatever the loader answers them. -/
theorem singleLoad_after (l : Loader σ μ φ) (surroundings : σ) (acts : List (Act σ)) :
    SingleLoad l ((perform l).log ⟨.empty, [], surroundings⟩ acts)
      ((perform l).after ⟨.empty, [], surroundings⟩ acts) := by
  have htraced := (perform l).invariant (P := fun log s => Traced log s.cache)
    (s := ⟨.empty, [], surroundings⟩) traced_nil (fun _ _ act h => h.perform l act) acts
  constructor
  case same_function =>
    intro handle f f' hf hf'
    have hboth := (htraced.cached handle f hf).symm.trans (htraced.cached handle f' hf')
    exact Option.some.inj hboth
  case resolved_once =>
    intro handle
    have haccounts := htraced.accounts handle
    cases hentry : ((perform l).after ⟨.empty, [], surroundings⟩ acts).cache.functions.get? handle with
    | none =>
        rw [hentry] at haccounts
        rw [show resolvedFor handle _ = [] from haccounts]
        exact Nat.zero_le 1
    | some e =>
        rw [hentry] at haccounts
        obtain ⟨m, -, hresolved⟩ := haccounts
        rw [hresolved]
        exact Nat.le_refl 1
  case loaded_once =>
    intro name
    rw [htraced.loaded_eq]
    exact Option.length_toList_le
  case kept => exact within_after l _
  case origin =>
    intro handle e he
    have haccounts := htraced.accounts handle
    rw [he] at haccounts
    exact haccounts
  case resident =>
    intro name m hm
    rw [htraced.loaded_eq, hm, Option.toList_some]
  case look_eq_load =>
    intro w answer asked hlook
    cases hget : ((perform l).after ⟨.empty, [], surroundings⟩ acts).cache.get? w.handle with
    | none =>
        rw [perform_look_of_missing l hget] at hlook
        cases hlook
    | some f =>
        rw [perform_look_of_get? l hget] at hlook
        cases hlook
        simp only [consult, load, hget]
  case uninterrupted => exact perform_uninterrupted l _

def numbering : Loader Nat Nat Nat := ⟨fun _ n => (.ok n, n + 1), fun _ _ n => (.ok n, n + 1)⟩

example :
    let w : Wanted := ⟨0x10, "default", "vec_add"⟩
    (perform numbering).log ⟨.empty, [], 0⟩ [.look w, .look w, .load 0, .load 0] =
      [(.look w, .missed), (.look w, .missed),
        (.load 0, .answered w (.ok 1)
          [.module "default" (.ok 0), .function 0 "vec_add" (.ok 1)]),
        (.load 0, .answered w (.ok 1) [])] := rfl

end NumaFabric.KernelCache
