import NumaFabric.Retry.Duration

namespace NumaFabric.Retry

inductive Backoff where
  | none
  /-- One step more for each attempt. -/
  | linear (step : Duration)
  | fixed (delay : Duration)
deriving DecidableEq

structure Policy where
  maxAttempts : UInt32
  backoff : Backoff
deriving DecidableEq

namespace Policy

def once : Policy := ⟨1, .none⟩

/-- Three attempts, with 100 ms more before each. -/
def localMemory : Policy := ⟨3, .linear (Duration.ofMillis 100)⟩

instance : Inhabited Policy := ⟨localMemory⟩

def delayBefore? (p : Policy) (attempt : Nat) : Option Duration :=
  match p.backoff with
  | .none => some 0
  | .linear step => step.times? (attempt - 1)
  | .fixed delay => if attempt > 1 then some delay else some 0

def attempts (p : Policy) : Nat := max 1 p.maxAttempts.toNat

theorem attempts_pos (p : Policy) : 0 < p.attempts := Nat.le_max_left 1 _

def backoffText : Backoff → String
  | .none => "None"
  | .linear step => "Linear(" ++ step.text ++ ")"
  | .fixed delay => "Fixed(" ++ delay.text ++ ")"

def debugText (p : Policy) : String :=
  s!"RetryPolicy \x7b max_attempts: {p.maxAttempts.toNat}, backoff: " ++ backoffText p.backoff ++
    " \x7d"

end Policy

end NumaFabric.Retry
