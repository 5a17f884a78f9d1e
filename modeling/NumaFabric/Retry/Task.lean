import NumaFabric.Retry.Run
/-!
The same loop as a task that yields to a scheduler: it asks for a wait or for an attempt, is resumed
when that is over, and keeps no more than the number of the attempt meanwhile.
-/

namespace NumaFabric.Retry

/-- What a task waits for. -/
inductive Task (ε α : Type) where
  | sleeping (attempt : Nat) (delay : Duration)
  | trying (attempt : Nat)
  | finished (outcome : Outcome ε α)

namespace Task

variable {σ ε α : Type}

def enter (p : Policy) (attempt : Nat) : Task ε α :=
  match p.delayBefore? attempt with
  | none => finished (.delayOverflow attempt)
  | some 0 => trying attempt
  | some (d + 1) => sleeping attempt (d + 1)

def start (p : Policy) : Task ε α := enter p 1

def resume (p : Policy) (transient : ε → Bool) (attempt : Nat) : Except ε α → Task ε α
  | .ok value => finished (.ok value)
  | .error e =>
    if transient e then
      if attempt ≥ p.attempts then finished (.exhausted attempt e) else enter p (attempt + 1)
    else finished (.permanent attempt e)

def drive (p : Policy) (transient : ε → Bool) (op : Operation σ ε α) :
    (fuel : Nat) → Task ε α → σ → Option (Outcome ε α) × σ
  | _, finished outcome, s => (some outcome, s)
  | 0, _, s => (none, s)
  | fuel + 1, sleeping attempt _, s => drive p transient op fuel (trying attempt) s
  | fuel + 1, trying attempt, s =>
    let (result, s) := op attempt s
    drive p transient op fuel (resume p transient attempt result) s

/-- A task resumes at most twice for each attempt. -/
def run (p : Policy) (transient : ε → Bool) (op : Operation σ ε α) (s : σ) :
    Option (Outcome ε α) × σ :=
  drive p transient op (2 * p.attempts) (start p) s

end Task

end NumaFabric.Retry
