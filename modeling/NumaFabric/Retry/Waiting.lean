import NumaFabric.Retry.Task
/-!
Both forms of the loop with what they do besides the attempts: they wait before each, and count them
in 32 bits. A wait takes effect on the state that the attempts work on, and a loop whose counter
overflows has no outcome.
-/

namespace NumaFabric.Retry

variable {σ ε α : Type}

/-- A delay of zero is no wait. -/
def pause (sleep : Duration → σ → σ) (delay : Duration) (s : σ) : σ :=
  if delay = 0 then s else sleep delay s

def runWaiting (sleep : Duration → σ → σ) (p : Policy) (transient : ε → Bool)
    (op : Operation σ ε α) (attempt : Nat) (s : σ) : Option (Outcome ε α) × σ :=
  if attempt < UInt32.size then
    match p.delayBefore? attempt with
    | none => (some (.delayOverflow attempt), s)
    | some delay =>
      match op attempt (pause sleep delay s) with
      | (.ok value, s) => (some (.ok value), s)
      | (.error e, s) =>
        if transient e then
          if attempt ≥ p.attempts then (some (.exhausted attempt e), s)
          else runWaiting sleep p transient op (attempt + 1) s
        else (some (.permanent attempt e), s)
  else (none, s)
termination_by UInt32.size - attempt

namespace Task

/-- Resumes the task until it is finished, at most `fuel` times; a wait is over when it is resumed. -/
def driveWaiting (sleep : Duration → σ → σ) (p : Policy) (transient : ε → Bool)
    (op : Operation σ ε α) : (fuel : Nat) → Task ε α → σ → Option (Outcome ε α) × σ
  | _, finished outcome, s => (some outcome, s)
  | 0, _, s => (none, s)
  | fuel + 1, sleeping attempt delay, s =>
    driveWaiting sleep p transient op fuel (trying attempt) (sleep delay s)
  | fuel + 1, trying attempt, s =>
    if attempt < UInt32.size then
      let (result, s) := op attempt s
      driveWaiting sleep p transient op fuel (resume p transient attempt result) s
    else (none, s)

def runWaiting (sleep : Duration → σ → σ) (p : Policy) (transient : ε → Bool)
    (op : Operation σ ε α) (s : σ) : Option (Outcome ε α) × σ :=
  driveWaiting sleep p transient op (2 * p.attempts) (start p) s

end Task

end NumaFabric.Retry
