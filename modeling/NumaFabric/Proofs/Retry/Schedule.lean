import NumaFabric.Proofs.Retry.Attempts
import NumaFabric.Retry.Waiting

namespace NumaFabric.Retry

inductive Step where
  | wait (delay : Duration)
  | attempt (number : Nat)
deriving DecidableEq

variable {σ ε α : Type}

def go (sleep : Duration → σ → σ) (op : Operation σ ε α) (steps : List Step) (s : σ) : σ :=
  steps.foldl (fun s step =>
    match step with
    | .wait delay => sleep delay s
    | .attempt number => (op number s).2) s

namespace Policy

def waitBefore (p : Policy) (attempt : Nat) : List Step :=
  match (p.delayBefore? attempt).getD 0 with
  | 0 => []
  | delay => [.wait delay]

def schedule (p : Policy) (attempts : Nat) : List Step :=
  (List.range' 1 attempts).flatMap fun n => p.waitBefore n ++ [.attempt n]

theorem schedule_succ (p : Policy) (n : Nat) :
    p.schedule (n + 1) = p.schedule n ++ (p.waitBefore (n + 1) ++ [.attempt (n + 1)]) := by
  rw [schedule, List.range'_1_concat, List.flatMap_append, List.flatMap_singleton, Nat.add_comm 1 n]
  rfl

theorem attempts_lt (p : Policy) : p.attempts < UInt32.size :=
  Nat.max_lt.mpr ⟨by decide, p.maxAttempts.toNat_lt⟩

theorem one_add_attempts_sub_one (p : Policy) : 1 + (p.attempts - 1) = p.attempts :=
  Nat.add_sub_cancel' p.attempts_pos

end Policy

def resultAt (sleep : Duration → σ → σ) (p : Policy) (op : Operation σ ε α) (s : σ)
    (attempt : Nat) : Except ε α :=
  (op attempt (go sleep op (p.schedule (attempt - 1) ++ p.waitBefore attempt) s)).1

/-- The operation with the wait before each attempt as part of it. -/
def waiting (sleep : Duration → σ → σ) (p : Policy) (op : Operation σ ε α) : Operation σ ε α :=
  fun attempt s => op attempt (pause sleep ((p.delayBefore? attempt).getD 0) s)

theorem go_append (sleep : Duration → σ → σ) (op : Operation σ ε α) (steps steps' : List Step)
    (s : σ) : go sleep op (steps ++ steps') s = go sleep op steps' (go sleep op steps s) :=
  List.foldl_append

section Waiting

variable (sleep : Duration → σ → σ) (p : Policy) (transient : ε → Bool) (op : Operation σ ε α)

theorem go_waitBefore (attempt : Nat) (s : σ) :
    go sleep op (p.waitBefore attempt) s =
      pause sleep ((p.delayBefore? attempt).getD 0) s := by
  rw [Policy.waitBefore, pause]
  split
  · rename_i h
    rw [if_pos h]
    rfl
  · rename_i h
    rw [if_neg h]
    rfl

theorem after_waiting (s : σ) (n : Nat) :
    after (waiting sleep p op) s n = go sleep op (p.schedule n) s := by
  induction n with
  | zero => rfl
  | succ n ih =>
      rw [after, ih, Policy.schedule_succ, go_append, go_append, go_waitBefore]
      rfl

theorem result_waiting (s : σ) (attempt : Nat) :
    result (waiting sleep p op) s attempt = resultAt sleep p op s attempt := by
  rw [result, resultAt, after_waiting, go_append, go_waitBefore]
  rfl

theorem waiting_of_delay {attempt : Nat} {delay : Duration}
    (hdelay : p.delayBefore? attempt = some delay) (s : σ) :
    waiting sleep p op attempt s = op attempt (pause sleep delay s) := by
  rw [waiting, hdelay, Option.getD_some]

theorem waiting_still : waiting (fun _ s => s) p op = op := by
  funext attempt s
  rw [waiting, pause, ite_self]

theorem runWaiting_eq {left attempt : Nat} (hleft : attempt + left = p.attempts) (s : σ) :
    runWaiting sleep p transient op attempt s =
      (some (runFrom p transient (waiting sleep p op) left attempt s).1,
        (runFrom p transient (waiting sleep p op) left attempt s).2) := by
  have hmax := p.attempts_lt
  fun_induction runFrom p transient (waiting sleep p op) left attempt s with
  | case1 left attempt s hdelay => rw [runWaiting, if_pos (by omega), hdelay]
  | case2 left attempt s delay hdelay value s' hvalue =>
      rw [waiting_of_delay sleep p op hdelay] at hvalue
      rw [runWaiting, if_pos (by omega), hdelay]
      simp only [hvalue]
  | case3 attempt s delay hdelay e s' herror he =>
      rw [waiting_of_delay sleep p op hdelay] at herror
      have hlast : attempt ≥ p.attempts := Nat.le_of_eq hleft.symm
      rw [runWaiting, if_pos (by omega), hdelay]
      simp only [herror, if_pos he, if_pos hlast]
  | case4 attempt s delay hdelay e s' herror he left ih =>
      rw [waiting_of_delay sleep p op hdelay] at herror
      have hlast : ¬ attempt ≥ p.attempts := by omega
      rw [runWaiting, if_pos (by omega), hdelay]
      simp only [herror, if_pos he, if_neg hlast]
      exact ih (by omega)
  | case5 left attempt s delay hdelay e s' herror he =>
      rw [waiting_of_delay sleep p op hdelay] at herror
      rw [runWaiting, if_pos (by omega), hdelay]
      simp only [herror, if_neg he]

theorem runWaiting_still (s : σ) :
    runWaiting (fun _ s => s) p transient op 1 s =
      (some (run p transient op s).1, (run p transient op s).2) := by
  rw [runWaiting_eq _ p transient op p.one_add_attempts_sub_one, waiting_still]
  rfl

namespace Task

theorem driveWaiting_finished (fuel : Nat) (o : Outcome ε α) (s : σ) :
    driveWaiting sleep p transient op fuel (finished o) s = (some o, s) := by
  rw [driveWaiting]

theorem exists_driveWaiting_enter_eq {attempt fuel : Nat} {delay : Duration}
    (hdelay : p.delayBefore? attempt = some delay) (hle : attempt ≤ p.attempts)
    (hfuel : 2 ≤ fuel) (s : σ) :
    ∃ rest, fuel ≤ rest + 2 ∧
      driveWaiting sleep p transient op fuel (enter p attempt) s =
        driveWaiting sleep p transient op rest
          (resume p transient attempt (waiting sleep p op attempt s).1)
          (waiting sleep p op attempt s).2 := by
  have hcounts := Nat.lt_of_le_of_lt hle p.attempts_lt
  obtain ⟨fuel, rfl⟩ := Nat.exists_eq_add_of_le' hfuel
  rw [waiting_of_delay sleep p op hdelay]
  cases delay with
  | zero =>
      refine ⟨fuel + 1, Nat.le_add_right _ 1, ?_⟩
      simp only [enter, hdelay, driveWaiting, if_pos hcounts]
      rfl
  | succ delay =>
      refine ⟨fuel, Nat.le_refl _, ?_⟩
      simp only [enter, hdelay, driveWaiting, if_pos hcounts]
      rfl

theorem driveWaiting_enter_eq {left attempt fuel : Nat} (hleft : attempt + left = p.attempts)
    (hfuel : 2 * (left + 1) ≤ fuel) (s : σ) :
    driveWaiting sleep p transient op fuel (enter p attempt) s =
      (some (runFrom p transient (waiting sleep p op) left attempt s).1,
        (runFrom p transient (waiting sleep p op) left attempt s).2) := by
  fun_induction runFrom p transient (waiting sleep p op) left attempt s generalizing fuel with
  | case1 left attempt s hdelay => simp only [enter, hdelay, driveWaiting_finished]
  | case2 left attempt s delay hdelay value s' hvalue =>
      obtain ⟨rest, -, hdrive⟩ :=
        exists_driveWaiting_enter_eq sleep p transient op hdelay (by omega) (by omega : 2 ≤ fuel) s
      rw [hdrive, hvalue]
      exact driveWaiting_finished sleep p transient op rest _ s'
  | case3 attempt s delay hdelay e s' herror he =>
      have hlast : attempt ≥ p.attempts := Nat.le_of_eq hleft.symm
      obtain ⟨rest, -, hdrive⟩ :=
        exists_driveWaiting_enter_eq sleep p transient op hdelay (by omega) (by omega : 2 ≤ fuel) s
      rw [hdrive, herror, resume, if_pos he, if_pos hlast]
      exact driveWaiting_finished sleep p transient op rest _ s'
  | case4 attempt s delay hdelay e s' herror he left ih =>
      have hlast : ¬ attempt ≥ p.attempts := by omega
      obtain ⟨rest, hrest, hdrive⟩ :=
        exists_driveWaiting_enter_eq sleep p transient op hdelay (by omega) (by omega : 2 ≤ fuel) s
      rw [hdrive, herror, resume, if_pos he, if_neg hlast]
      exact ih (by omega) (by omega)
  | case5 left attempt s delay hdelay e s' herror he =>
      obtain ⟨rest, -, hdrive⟩ :=
        exists_driveWaiting_enter_eq sleep p transient op hdelay (by omega) (by omega : 2 ≤ fuel) s
      rw [hdrive, herror, resume, if_neg he]
      exact driveWaiting_finished sleep p transient op rest _ s'

def Within (p : Policy) : Task ε α → Prop
  | sleeping attempt _ => attempt ≤ p.attempts
  | trying attempt => attempt ≤ p.attempts
  | finished _ => True

theorem within_enter {attempt : Nat} (hle : attempt ≤ p.attempts) :
    (enter p attempt : Task ε α).Within p := by
  unfold enter
  split
  · trivial
  · exact hle
  · exact hle

theorem within_resume (attempt : Nat) (r : Except ε α) :
    (resume p transient attempt r).Within p := by
  unfold resume
  split
  · trivial
  · split
    · split
      · trivial
      · rename_i hlast
        exact within_enter p (Nat.lt_of_not_ge hlast)
    · trivial

theorem driveWaiting_still (fuel : Nat) (t : Task ε α) (s : σ) (hwithin : t.Within p) :
    driveWaiting (fun _ s => s) p transient op fuel t s = drive p transient op fuel t s := by
  fun_induction drive p transient op fuel t s with
  | case1 fuel o s => exact driveWaiting_finished _ p transient op fuel o s
  | case2 t s hunfinished =>
      cases t with
      | sleeping attempt delay => rfl
      | trying attempt => rfl
      | finished o => exact absurd rfl (hunfinished o)
  | case3 fuel attempt delay s ih =>
      rw [driveWaiting]
      exact ih hwithin
  | case4 fuel attempt s result s' hop ih =>
      have hcounts : attempt < UInt32.size := Nat.lt_of_le_of_lt hwithin p.attempts_lt
      rw [driveWaiting, if_pos hcounts, hop]
      exact ih (within_resume p transient attempt result)

theorem runWaiting_still (s : σ) :
    Task.runWaiting (fun _ s => s) p transient op s = Task.run p transient op s :=
  driveWaiting_still p transient op _ _ s (within_enter p p.attempts_pos)

end Task

end Waiting

/-- Both forms of the loop end with attempt `k`, the first one that settles the matter, after the
attempts up to `k` and the waits before them. -/
structure EndsWith (p : Policy) (transient : ε → Bool) (sleep : Duration → σ → σ)
    (op : Operation σ ε α) (s : σ) (k : Nat) : Prop where
  pos : 1 ≤ k
  le_attempts : k ≤ p.attempts
  counts : k < UInt32.size
  settles : Settles p transient k (resultAt sleep p op s k)
  first : ∀ i, 1 ≤ i → i < k → ¬ Settles p transient i (resultAt sleep p op s i)
  blocking : runWaiting sleep p transient op 1 s =
    (some (outcome transient k (resultAt sleep p op s k)), go sleep op (p.schedule k) s)
  suspending : Task.runWaiting sleep p transient op s =
    (some (outcome transient k (resultAt sleep p op s k)), go sleep op (p.schedule k) s)

theorem exists_endsWith {p : Policy} (hp : p.NeverOverflows) (transient : ε → Bool)
    (sleep : Duration → σ → σ) (op : Operation σ ε α) (s : σ) :
    ∃ k, EndsWith p transient sleep op s k := by
  obtain ⟨k, hpos, hle, hsettles, hfirst, hrun⟩ :=
    exists_run_eq hp transient (waiting sleep p op) s
  simp only [result_waiting, after_waiting] at hsettles hfirst hrun
  have hloop : runFrom p transient (waiting sleep p op) (p.attempts - 1) 1 s =
      (outcome transient k (resultAt sleep p op s k), go sleep op (p.schedule k) s) := hrun
  have hleft := p.one_add_attempts_sub_one
  refine ⟨k, hpos, hle, Nat.lt_of_le_of_lt hle p.attempts_lt, hsettles, hfirst, ?_, ?_⟩
  · rw [runWaiting_eq sleep p transient op hleft, hloop]
  · have hfuel : 2 * (p.attempts - 1 + 1) ≤ 2 * p.attempts := by omega
    rw [Task.runWaiting, Task.start,
      Task.driveWaiting_enter_eq sleep p transient op hleft hfuel, hloop]

def thirdTime : Operation (List Step) String Nat := fun n steps =>
  (if n < 3 then .error "busy" else .ok n, steps ++ [.attempt n])

def note (delay : Duration) (steps : List Step) : List Step := steps ++ [.wait delay]

theorem exists_endsWith_thirdTime :
    (Policy.mk 4294967295 (.linear (Duration.ofMillis 100))).NeverOverflows ∧
      ∃ k, EndsWith ⟨4294967295, .linear (Duration.ofMillis 100)⟩ (fun _ => true) note thirdTime []
        k := by
  have hp : (Policy.mk 4294967295 (.linear (Duration.ofMillis 100))).NeverOverflows :=
    Policy.neverOverflows_linear (by decide)
  exact ⟨hp, exists_endsWith hp _ note thirdTime []⟩

example :
    Task.runWaiting note Policy.localMemory (fun _ => true) thirdTime [] =
      (some (.ok 3), [.attempt 1, .wait (Duration.ofMillis 100), .attempt 2,
        .wait (Duration.ofMillis 200), .attempt 3]) := by decide

end NumaFabric.Retry
