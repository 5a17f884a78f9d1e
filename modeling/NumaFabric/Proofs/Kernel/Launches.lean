import NumaFabric.Kernel.Launch
import NumaFabric.Kernel.Recorder
import NumaFabric.Proofs.Kernel.SingleLoad
/-!
Launches, one after the other. Main statement: the executor is called once for every launch that is
valid and finds its function, with that function and with the launch's own parameters, and for no other
launch; a launch succeeds if and only if its call did.
-/

namespace NumaFabric

variable {σ ε μ φ : Type}

theorem Dims.hasZero_iff (d : Dims) : d.HasZero ↔ 0 ∈ d.toList := by
  simp [HasZero, toList, eq_comm]

namespace KernelLaunch

structure IsValid (k : KernelLaunch) : Prop where
  name : k.name ≠ ""
  params : k.params ≠ []
  grid : 0 ∉ k.grid.toList
  block : 0 ∉ k.block.toList

theorem validate_eq_ok_iff (k : KernelLaunch) : k.validate = .ok () ↔ k.IsValid := by
  have hcheck {p : Prop} [Decidable p] {e : LaunchError} {rest : Except LaunchError Unit} :
      (if p then .error e else rest) = .ok () ↔ ¬ p ∧ rest = .ok () := by
    by_cases hp : p <;> simp [hp]
  simp only [validate, hcheck, String.isEmpty_iff, List.isEmpty_iff, Dims.hasZero_iff, and_true]
  exact ⟨fun ⟨hname, hparams, hgrid, hblock⟩ => ⟨hname, hparams, hgrid, hblock⟩,
    fun h => ⟨h.name, h.params, h.grid, h.block⟩⟩

/-- The parameters, and after them as many zeros as the last word of eight bytes lacks. -/
def IsPadded (params staged : List UInt8) : Prop :=
  ∃ zeros < 8, staged = params ++ List.replicate zeros 0 ∧ 8 ∣ staged.length

theorem isPadded_stage (k : KernelLaunch) : IsPadded k.params (k.stage []) := by
  let size := (k.params.length + 7) / 8 * 8
  have hstaged : k.stage [] = k.params ++ List.replicate (size - k.params.length) 0 := by
    change k.params.take size ++ _ = _
    rw [List.take_of_length_le (by omega)]
    rfl
  refine ⟨size - k.params.length, by omega, hstaged, (k.params.length + 7) / 8, ?_⟩
  rw [hstaged, List.length_append, List.length_replicate]
  omega

end KernelLaunch

structure Execution (φ : Type) where
  function : φ
  launch : KernelLaunch
  params : List UInt8
  ended : Except LaunchError Unit

def Executor.recorded (run : Executor ε φ) : Executor (ε × List (Execution φ)) φ :=
  fun f k params e => ((run f k params e.1).1, (run f k params e.1).2,
    e.2 ++ [⟨f, k, params, (run f k params e.1).1⟩])

theorem Launcher.execute_eq (run : Executor ε φ) (l : Launcher μ φ) (f : φ) (k : KernelLaunch)
    (e : ε) :
    l.execute run f k e = ((run f k (k.stage []) e).1,
      { l with staging := l.staging.acquire.2.giveBack (k.stage []) },
      (run f k (k.stage []) e).2) := by
  simp only [execute, BufferPool.acquire_fst]

structure Site (σ ε μ φ : Type) where
  launcher : Launcher μ φ
  surroundings : σ
  device : ε

namespace Site

def fresh (defaultModule : String) (surroundings : σ) (device : ε) : Site σ ε μ φ :=
  ⟨.new defaultModule, surroundings, device⟩

def perform (l : Loader σ μ φ) (run : Executor ε φ) :
    Machine (Site σ ε μ φ) KernelLaunch (Except LaunchError Unit) := fun s k =>
  let (answer, launcher, surroundings, device) :=
    s.launcher.launch l run k s.surroundings s.device
  (answer, ⟨launcher, surroundings, device⟩)

def wanted (s : Site σ ε μ φ) (k : KernelLaunch) : Wanted :=
  ⟨k.handle, k.module.getD s.launcher.defaultModule, k.name⟩

def found? (l : Loader σ μ φ) (s : Site σ ε μ φ) (k : KernelLaunch) : Option φ :=
  let w := s.wanted k
  (s.launcher.cache.getOrLoad l w.handle w.module w.function s.surroundings).1.toOption

section

variable (l : Loader σ μ φ) (run : Executor ε φ) {s : Site σ ε μ φ} {k : KernelLaunch}

theorem found?_eq_some_iff {f : φ} : s.found? l k = some f ↔
    s.launcher.cache.get? k.handle = some f ∨
      s.launcher.cache.get? k.handle = none ∧
        s.launcher.cache.Supplies l (s.wanted k) s.surroundings f := by
  refine Iff.trans ?_ (s.launcher.cache.getOrLoad_fst_eq_ok_iff l (s.wanted k) s.surroundings)
  simp only [found?]
  cases (s.launcher.cache.getOrLoad l (s.wanted k).handle (s.wanted k).module
    (s.wanted k).function s.surroundings).1 <;> simp [Except.toOption]

theorem perform_of_not_isValid (h : ¬ k.IsValid) :
    ∃ cause, perform l run s k = (.error cause, s) := by
  unfold perform Launcher.launch
  cases hvalidate : k.validate with
  | ok _ => exact absurd (k.validate_eq_ok_iff.mp hvalidate) h
  | error cause => exact ⟨cause, rfl⟩

theorem perform_of_isValid (h : k.IsValid) :
    ∃ cache surroundings, s.launcher.cache.Within cache ∧
      ((s.found? l k = none ∧ ∃ cause, perform l run s k =
          (.error (.cache cause), ⟨{ s.launcher with cache }, surroundings, s.device⟩)) ∨
        ∃ f staging, s.found? l k = some f ∧ cache.get? k.handle = some f ∧
          perform l run s k = ((run f k (k.stage []) s.device).1,
            ⟨{ s.launcher with cache, staging }, surroundings,
              (run f k (k.stage []) s.device).2⟩)) := by
  obtain ⟨answer, cache, surroundings, asked, -, hload, hloads⟩ :=
    s.launcher.cache.consult_spec l (s.wanted k) s.surroundings
  rw [← KernelCache.getOrLoad_eq_load] at hload
  refine ⟨cache, surroundings, hloads.within, ?_⟩
  unfold found? perform Launcher.launch
  simp only [k.validate_eq_ok_iff.mpr h, hload]
  simp only [wanted] at hload
  cases answer with
  | error cause => exact .inl ⟨rfl, cause, by simp only [hload]⟩
  | ok f =>
      refine .inr ⟨f, s.launcher.staging.acquire.2.giveBack (k.stage []), rfl,
        hloads.get?_of_ok, ?_⟩
      simp only [hload, Launcher.execute_eq]

end

/-- What one launch does where the executor keeps a record. -/
structure Serves (l : Loader σ μ φ) (run : Executor ε φ) (s : Site σ (ε × List (Execution φ)) μ φ)
    (k : KernelLaunch) (answer : Except LaunchError Unit)
    (after : Site σ (ε × List (Execution φ)) μ φ) : Prop where
  found_iff : ∀ f, s.found? l k = some f ↔
    s.launcher.cache.get? k.handle = some f ∨
      s.launcher.cache.get? k.handle = none ∧
        s.launcher.cache.Supplies l (s.wanted k) s.surroundings f
  executed : ∀ f, k.IsValid → s.found? l k = some f →
    ∃ staged, KernelLaunch.IsPadded k.params staged ∧
      after.launcher.cache.get? k.handle = some f ∧
      after.device = ((run f k staged s.device.1).2,
        s.device.2 ++ [⟨f, k, staged, (run f k staged s.device.1).1⟩]) ∧
      answer = (run f k staged s.device.1).1
  not_executed : ¬ (k.IsValid ∧ (s.found? l k).isSome) → after.device = s.device ∧ answer ≠ .ok ()
  untouched : ¬ k.IsValid → after = s

theorem serves_perform (l : Loader σ μ φ) (run : Executor ε φ)
    (s : Site σ (ε × List (Execution φ)) μ φ) (k : KernelLaunch) :
    Serves l run s k (perform l run.recorded s k).1 (perform l run.recorded s k).2 := by
  by_cases hvalid : k.IsValid
  · obtain ⟨cache, surroundings, -, ⟨hnone, cause, hperform⟩ | ⟨f, staging, hsome, hget, hperform⟩⟩ :=
      perform_of_isValid l run.recorded (s := s) hvalid
    · rw [hperform]
      constructor
      case found_iff => exact fun _ => found?_eq_some_iff l
      case executed =>
        intro f _ hf
        rw [hnone] at hf
        cases hf
      case not_executed => exact fun _ => ⟨rfl, nofun⟩
      case untouched => exact fun h => absurd hvalid h
    · rw [hperform]
      constructor
      case found_iff => exact fun _ => found?_eq_some_iff l
      case executed =>
        intro f' _ hf
        rw [hsome] at hf
        cases hf
        exact ⟨k.stage [], k.isPadded_stage, hget, rfl, rfl⟩
      case not_executed => exact fun h => absurd ⟨hvalid, by rw [hsome]; rfl⟩ h
      case untouched => exact fun h => absurd hvalid h
  · obtain ⟨cause, hperform⟩ := perform_of_not_isValid l run.recorded (s := s) hvalid
    rw [hperform]
    constructor
    case found_iff => exact fun _ => found?_eq_some_iff l
    case executed => exact fun _ h => absurd h hvalid
    case not_executed => exact fun _ => ⟨rfl, nofun⟩
    case untouched => exact fun _ => rfl

theorem within_perform (l : Loader σ μ φ) (run : Executor ε φ) (s : Site σ ε μ φ)
    (k : KernelLaunch) : s.launcher.cache.Within (perform l run s k).2.launcher.cache := by
  by_cases hvalid : k.IsValid
  · obtain ⟨cache, surroundings, hwithin, ⟨-, cause, hperform⟩ | ⟨f, staging, -, -, hperform⟩⟩ :=
      perform_of_isValid l run (s := s) hvalid <;> rw [hperform] <;> exact hwithin
  · obtain ⟨cause, hperform⟩ := perform_of_not_isValid l run (s := s) hvalid
    rw [hperform]
    exact .refl _

/-- Every execution in the record got the parameters of its launch, and the function that is cached
under its handle. -/
def Sound (s : Site σ (ε × List (Execution φ)) μ φ) : Prop :=
  ∀ use ∈ s.device.2, KernelLaunch.IsPadded use.launch.params use.params ∧
    s.launcher.cache.get? use.launch.handle = some use.function

theorem Sound.perform {s : Site σ (ε × List (Execution φ)) μ φ} (h : s.Sound) (l : Loader σ μ φ)
    (run : Executor ε φ) (k : KernelLaunch) : (perform l run.recorded s k).2.Sound := by
  have hserves := serves_perform l run s k
  have hwithin := within_perform l run.recorded s k
  intro use huse
  by_cases hreached : k.IsValid ∧ (s.found? l k).isSome
  · obtain ⟨hvalid, hfound⟩ := hreached
    obtain ⟨f, hf⟩ := Option.isSome_iff_exists.mp hfound
    obtain ⟨staged, hpadded, hget, hdevice, -⟩ := hserves.executed f hvalid hf
    rw [hdevice] at huse
    -- Nothing cached is ever replaced, so earlier executions still agree with the cache.
    rcases List.mem_append.mp huse with hearlier | hnow
    · obtain ⟨hpadded, hget⟩ := h use hearlier
      exact ⟨hpadded, hwithin.get? hget⟩
    · cases List.mem_singleton.mp hnow
      exact ⟨hpadded, hget⟩
  · rw [(hserves.not_executed hreached).1] at huse
    obtain ⟨hpadded, hget⟩ := h use huse
    exact ⟨hpadded, hwithin.get? hget⟩

def unrecorded (s : Site σ (ε × List (Execution φ)) μ φ) : Site σ ε μ φ :=
  ⟨s.launcher, s.surroundings, s.device.1⟩

theorem perform_unrecorded (l : Loader σ μ φ) (run : Executor ε φ)
    (s : Site σ (ε × List (Execution φ)) μ φ) (k : KernelLaunch) :
    perform l run s.unrecorded k =
      ((perform l run.recorded s k).1, (perform l run.recorded s k).2.unrecorded) := by
  unfold perform Launcher.launch
  cases k.validate with
  | error cause => rfl
  | ok _ =>
      simp only [Launcher.execute_eq, unrecorded]
      generalize s.launcher.cache.getOrLoad l k.handle
        (k.module.getD s.launcher.defaultModule) k.name s.surroundings = found
      obtain ⟨answer, cache, surroundings⟩ := found
      cases answer <;> rfl

/-- What holds of `launches` at a fresh launcher, with any loader and any executor. -/
structure ServesEach (l : Loader σ μ φ) (run : Executor ε φ) (defaultModule : String)
    (surroundings : σ) (device : ε) (launches : List KernelLaunch) : Prop where
  plain : (perform l run).log (fresh defaultModule surroundings device) launches =
    (perform l run.recorded).log (fresh defaultModule surroundings (device, [])) launches
  served : ∀ earlier k later, launches = earlier ++ k :: later →
    let s := (perform l run.recorded).after (fresh defaultModule surroundings (device, [])) earlier
    Serves l run s k (perform l run.recorded s k).1 (perform l run.recorded s k).2
  sound : ((perform l run.recorded).after (fresh defaultModule surroundings (device, []))
    launches).Sound

/-- Whatever is launched, in whatever order, and however loads and executions end. -/
theorem servesEach (l : Loader σ μ φ) (run : Executor ε φ) (defaultModule : String)
    (surroundings : σ) (device : ε) (launches : List KernelLaunch) :
    ServesEach l run defaultModule surroundings device launches where
  plain := (Machine.simulation (perform_unrecorded l run)
    (fresh defaultModule surroundings (device, [])) launches).1
  served _ k _ _ := serves_perform l run _ k
  sound := (perform l run.recorded).invariant (P := fun _ s => s.Sound)
    (s := fresh defaultModule surroundings (device, [])) (fun _ huse => nomatch huse)
    (fun _ _ k h => h.perform l run k) launches

example :
    let launch (params : List UInt8) : KernelLaunch :=
      ⟨"scale", ⟨1, 1, 1⟩, ⟨1, 1, 1⟩, 0, params, 1, 0, none⟩
    let run := perform KernelCache.numbering (Executor.recorded dryRun)
    (run.after (fresh "default" 0 (0, [])) [launch [1, 2, 3, 4, 5, 6, 7, 8, 9], launch [],
        launch [10]]).device.2.map (·.params) =
      [[1, 2, 3, 4, 5, 6, 7, 8, 9, 0, 0, 0, 0, 0, 0, 0], [10, 0, 0, 0, 0, 0, 0, 0]] := by
  decide

end Site

end NumaFabric
