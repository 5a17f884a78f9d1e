/-!
Waiting for workers at shutdown. Workers are counted while they are at work. One who waits first
asks to be notified, then looks at the count, and only then sleeps; the last worker to leave first
takes itself off the count and then notifies everybody who has asked. The steps of all of them may
come in any order.
-/

namespace NumaFabric

inductive Waiter where
  /-- About to ask for a notification. -/
  | starting
  /-- Has asked and not looked at the count yet; a notification may have come since. -/
  | armed (notified : Bool)
  /-- Has seen workers and sleeps until notified. -/
  | asleep (notified : Bool)
  | done
deriving DecidableEq

namespace Waiter

/-- The next step, given the count; one who sleeps and is not notified stays. -/
def step (active : UInt64) : Waiter → Waiter
  | starting => armed false
  | armed notified => if active = 0 then done else asleep notified
  | asleep true => starting
  | asleep false => asleep false
  | done => done

def notify : Waiter → Waiter
  | armed _ => armed true
  | asleep _ => asleep true
  | w => w

/-- Steps until it sleeps or is done; no more than four lead there. -/
def poll (active : UInt64) (w : Waiter) : Waiter :=
  step active (step active (step active (step active w)))

def isDone : Waiter → Bool
  | done => true
  | _ => false

end Waiter

structure Tracker where
  /-- Workers at work; the count wraps around below zero. -/
  active : UInt64
  /-- Workers that left last and have not notified yet. -/
  due : Nat
  waiters : List Waiter
deriving DecidableEq

namespace Tracker

def new : Tracker := ⟨0, 0, []⟩

def register (t : Tracker) : Tracker := { t with active := t.active + 1 }

/-- Takes a worker off the count; the last one owes a notification. -/
def leave (t : Tracker) : Tracker :=
  { t with
    active := t.active - 1
    due := if t.active = 1 then t.due + 1 else t.due }

def notify (t : Tracker) : Tracker :=
  match t.due with
  | 0 => t
  | due + 1 => { t with due, waiters := t.waiters.map Waiter.notify }

def unregister (t : Tracker) : Tracker := t.leave.notify

/-- Whether one who begins to wait now would be done without sleeping. -/
def isComplete (t : Tracker) : Bool := (Waiter.starting.poll t.active).isDone

def advance (t : Tracker) (index : Nat) : Tracker :=
  { t with waiters := t.waiters.modify index (Waiter.step t.active) }

def settle (t : Tracker) : Tracker :=
  { t with waiters := t.waiters.map (Waiter.poll t.active) }

def debugText (t : Tracker) : String :=
  s!"GracefulShutdownTracker \x7b active_workers: {t.active.toNat} \x7d"

end Tracker

/-- A tracker whose workers are counted by guards only: each guard counts one worker from its
creation to its end. -/
structure GuardedTracker where
  tracker : Tracker
  guards : Nat
deriving DecidableEq

inductive DrainEvent where
  | enter
  | leave
  | notify
  | wait
  | advance (index : Nat)
deriving DecidableEq

namespace GuardedTracker

def new : GuardedTracker := ⟨.new, 0⟩

/-- How many guards there can be at a time. Each holds a reference to the tracker, and references
are counted in a word. -/
def maxGuards : Nat := UInt64.size - 1

/-- The state after an event, if the event can happen: only a guard that is there can end. -/
def next? (g : GuardedTracker) : DrainEvent → Option GuardedTracker
  | .enter => if g.guards < maxGuards then some ⟨g.tracker.register, g.guards + 1⟩ else none
  | .leave => if g.guards = 0 then none else some ⟨g.tracker.leave, g.guards - 1⟩
  | .notify => if g.tracker.due = 0 then none else some { g with tracker := g.tracker.notify }
  | .wait =>
    some { g with tracker := { g.tracker with waiters := g.tracker.waiters ++ [.starting] } }
  | .advance index => some { g with tracker := g.tracker.advance index }

def run? (g : GuardedTracker) : List DrainEvent → Option GuardedTracker
  | [] => some g
  | e :: rest => (g.next? e).bind fun g => run? g rest

end GuardedTracker

end NumaFabric
