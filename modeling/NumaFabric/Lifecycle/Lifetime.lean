import NumaFabric.Lifecycle.Tracker
/-!
The life of a process. Everything that runs holds a token and stops when it is cancelled; a token
counts as cancelled when it or one that it was made from is. Shutdown cancels the first token and
then waits for the workers.
-/

namespace NumaFabric

/-- Tokens by their number; each but the first knows the one it was made from. -/
structure TokenTree where
  parents : List (Option Nat)
  cancelled : List Nat
deriving DecidableEq

namespace TokenTree

def root : Nat := 0

def new : TokenTree := ⟨[none], []⟩

def child (t : TokenTree) (parent : Nat) : Nat × TokenTree :=
  (t.parents.length, { t with parents := t.parents ++ [some parent] })

def cancel (t : TokenTree) (n : Nat) : TokenTree := { t with cancelled := n :: t.cancelled }

/-- Looks at a token and at most `fuel` of those it comes from. -/
def reaches (t : TokenTree) : (fuel : Nat) → Nat → Bool
  | 0, n => t.cancelled.contains n
  | fuel + 1, n =>
    t.cancelled.contains n ||
      match t.parents[n]? with
      | some (some parent) => reaches t fuel parent
      | _ => false

/-- Whether a token is cancelled; none comes from more tokens than there are. -/
def isCancelled (t : TokenTree) (n : Nat) : Bool := t.reaches t.parents.length n

end TokenTree

structure Lifetime where
  tokens : TokenTree
  tracker : Tracker
deriving DecidableEq

namespace Lifetime

def new : Lifetime := ⟨.new, .new⟩

def childToken (r : Lifetime) : Nat × Lifetime :=
  let (n, tokens) := r.tokens.child TokenTree.root
  (n, { r with tokens })

def cancel (r : Lifetime) (token : Nat) : Lifetime := { r with tokens := r.tokens.cancel token }

def isCancelled (r : Lifetime) (token : Nat) : Bool := r.tokens.isCancelled token

def shutdown (r : Lifetime) : Lifetime := r.cancel TokenTree.root

/-- Whether waiting for the workers ends before the time is over, if none of them leaves. -/
def workersDone (r : Lifetime) : Bool := r.tracker.isComplete

def execute {ε α : Type} (r : Lifetime) (program : Lifetime → Except ε α × Lifetime) :
    Except ε α × Lifetime := program r

end Lifetime

end NumaFabric
