import NumaFabric.Retry.Policy

namespace NumaFabric.Retry

inductive Outcome (ε α : Type) where
  | ok (value : α)
  | exhausted (attempts : Nat) (last : ε)
  | permanent (attempt : Nat) (error : ε)
  /-- The wait before an attempt is longer than any duration, and nothing more is tried. -/
  | delayOverflow (attempt : Nat)
deriving DecidableEq

namespace Outcome

variable {ε α : Type}

def attempts : Outcome ε α → Nat
  | ok _ => 0
  | exhausted n _ => n
  | permanent n _ => n
  | delayOverflow n => n - 1

def message? (text : ε → String) : Outcome ε α → Option String
  | ok _ | delayOverflow _ => none
  | exhausted n e => some (s!"operation failed after {n} attempts: " ++ text e)
  | permanent n e =>
    some (s!"operation failed on attempt {n} with a non-retryable error: " ++ text e)

end Outcome

def delayOverflowMessage : String := "overflow when multiplying duration by scalar"

variable {σ ε α : Type}

/-- What an attempt does. -/
abbrev Operation (σ ε α : Type) := Nat → σ → Except ε α × σ

/-- Attempts from number `attempt` on, of which `left` may follow that one. -/
def runFrom (p : Policy) (transient : ε → Bool) (op : Operation σ ε α) :
    (left attempt : Nat) → σ → Outcome ε α × σ
  | left, attempt, s =>
    match p.delayBefore? attempt with
    | none => (.delayOverflow attempt, s)
    | some _ =>
      match op attempt s with
      | (.ok value, s) => (.ok value, s)
      | (.error e, s) =>
        if transient e then
          match left with
          | 0 => (.exhausted attempt e, s)
          | left + 1 => runFrom p transient op left (attempt + 1) s
        else (.permanent attempt e, s)

def run (p : Policy) (transient : ε → Bool) (op : Operation σ ε α) (s : σ) : Outcome ε α × σ :=
  runFrom p transient op (p.attempts - 1) 1 s

end NumaFabric.Retry
