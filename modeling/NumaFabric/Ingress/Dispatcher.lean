import NumaFabric.Ingress.BufferPool
import NumaFabric.Ingress.Ring
import NumaFabric.Wire.Frame
/-!
The ingress of a node: datagrams wait in a ring until a worker takes them, reads the command in them
and gives it to a handler. Every datagram that comes in is counted once where it ends. A handler
that breaks down counts as one that fails, and its worker goes on. The buffers that datagrams lie in
come from a pool and go back to it.
-/

namespace NumaFabric

open NumaFabric.Wire

/-- Counters of one word each, which wrap around. -/
structure DispatchStats where
  received : UInt64
  droppedFull : UInt64
  malformed : UInt64
  checksumFailed : UInt64
  routed : UInt64
  routeFailed : UInt64
deriving DecidableEq

namespace DispatchStats

def zero : DispatchStats := ⟨0, 0, 0, 0, 0, 0⟩

/-- Datagrams that came to an end, those refused by a closed ring aside. -/
def settled (s : DispatchStats) : UInt64 :=
  s.droppedFull + s.malformed + s.checksumFailed + s.routed + s.routeFailed

def countError (s : DispatchStats) (e : CodecError) : DispatchStats :=
  match e.errorClass with
  | .checksum => { s with checksumFailed := s.checksumFailed + 1 }
  | .format | .sizeMismatch => { s with malformed := s.malformed + 1 }

end DispatchStats

inductive Handled where
  | done
  | failed
  | brokeDown
deriving DecidableEq

abbrev Handler (σ : Type) := Command → σ → Handled × σ

namespace DispatchStats

def countHandled (s : DispatchStats) : Handled → DispatchStats
  | .done => { s with routed := s.routed + 1 }
  | .failed | .brokeDown => { s with routeFailed := s.routeFailed + 1 }

end DispatchStats

structure DispatcherConfig where
  workers : Nat
  queueCapacity : Nat
  maxDatagramSize : Nat

instance : Inhabited DispatcherConfig := ⟨⟨4, 1024, 4096 + headerLength⟩⟩

structure Dispatcher (σ : Type) where
  ring : Ring (List UInt8)
  pool : BufferPool
  stats : DispatchStats
  /-- Datagrams that workers have taken and not counted yet, oldest first. -/
  inFlight : List (List UInt8)
  /-- Workers that have not gone home. -/
  workers : Nat
  maxDatagramSize : Nat
  state : σ

namespace Dispatcher

variable {σ : Type}

/-- Its workers have done nothing yet. There are buffers for a full ring and for every worker. -/
def fresh (config : DispatcherConfig) (ring : Ring (List UInt8)) (state : σ) : Dispatcher σ where
  ring
  pool := .new (config.queueCapacity + config.workers)
  stats := .zero
  inFlight := []
  workers := config.workers
  maxDatagramSize := config.maxDatagramSize
  state

def start (config : DispatcherConfig) (state : σ) : Except Ring.CapacityError (Dispatcher σ) := do
  let ring ← Ring.new config.queueCapacity
  return fresh config ring state

/-- Queues a filled buffer, and tells whether it waits for a worker now. -/
def enqueue (d : Dispatcher σ) (buffer : List UInt8) : Bool × Dispatcher σ :=
  let stats := { d.stats with received := d.stats.received + 1 }
  match d.ring.push buffer with
  | .ok ring => (true, { d with ring, stats })
  | .error (.full buffer) =>
    (false, { d with
      stats := { stats with droppedFull := stats.droppedFull + 1 }
      pool := d.pool.giveBack buffer })
  | .error (.closed buffer) => (false, { d with stats, pool := d.pool.giveBack buffer })

def submit (d : Dispatcher σ) (datagram : List UInt8) : Bool × Dispatcher σ :=
  let (buffer, pool) := d.pool.acquire
  { d with pool }.enqueue (buffer ++ datagram)

/-- A worker that is free takes the oldest datagram, or goes home if no more will come. -/
def take (d : Dispatcher σ) : Option (List UInt8) × Dispatcher σ :=
  if d.inFlight.length < d.workers then
    match d.ring.pop with
    | (.item datagram, ring) =>
      (some datagram, { d with ring, inFlight := d.inFlight ++ [datagram] })
    | (.finished, _) => (none, { d with workers := d.workers - 1 })
    | (.pending, _) => (none, d)
  else (none, d)

def process (handler : Handler σ) (datagram : List UInt8) (stats : DispatchStats) (state : σ) :
    DispatchStats × σ :=
  match decodeFramed datagram with
  | .error e => (stats.countError e, state)
  | .ok c =>
    let (handled, state) := handler c state
    (stats.countHandled handled, state)

def complete (handler : Handler σ) (d : Dispatcher σ) (index : Nat) :
    Option (List UInt8) × Dispatcher σ :=
  match d.inFlight[index]? with
  | none => (none, d)
  | some datagram =>
    let (stats, state) := process handler datagram d.stats d.state
    (some datagram, { d with
      stats
      state
      inFlight := d.inFlight.eraseIdx index
      pool := d.pool.giveBack datagram })

def close (d : Dispatcher σ) : Dispatcher σ := { d with ring := d.ring.close }

def work (handler : Handler σ) : Nat → Dispatcher σ → Dispatcher σ
  | 0, d => d
  | n + 1, d => work handler n (complete handler d.take.2 0).2

/-- The state in which the workers, if there are any, have nothing left to do. -/
def settle (handler : Handler σ) (d : Dispatcher σ) : Dispatcher σ :=
  if d.workers = 0 then d else work handler (d.inFlight.length + d.ring.size) d

def shutdown (handler : Handler σ) (d : Dispatcher σ) : Dispatcher σ :=
  { settle handler d.close with workers := 0 }

def cut (d : Dispatcher σ) (datagram : List UInt8) : List UInt8 := datagram.take d.maxDatagramSize

/-! All that a call can come to. -/

theorem submit_cases (d : Dispatcher σ) (datagram : List UInt8) :
    ∃ pool,
      (d.ring.closed = true ∧ d.submit datagram =
        (false, { d with pool, stats := { d.stats with received := d.stats.received + 1 } })) ∨
      (d.ring.closed = false ∧ d.ring.items.length = d.ring.capacity ∧ d.submit datagram =
        (false, { d with pool, stats := { d.stats with
          received := d.stats.received + 1
          droppedFull := d.stats.droppedFull + 1 } })) ∨
      (d.ring.closed = false ∧ d.ring.items.length < d.ring.capacity ∧
        ∃ ring, ring.items = d.ring.items ++ [datagram] ∧ ring.closed = false ∧
          d.submit datagram = (true, { d with
            ring, pool, stats := { d.stats with received := d.stats.received + 1 } })) := by
  have hbuffer : d.submit datagram = { d with pool := d.pool.acquire.2 }.enqueue datagram := by
    change { d with pool := d.pool.acquire.2 }.enqueue (d.pool.acquire.1 ++ datagram) = _
    rw [BufferPool.acquire_fst, List.nil_append]
  obtain ⟨hclosed, hpush⟩ | ⟨hopen, hfull, hpush⟩ | ⟨hopen, hroom, ring, hpush, hitems, -, hopen'⟩ :=
    d.ring.push_cases datagram
  · refine ⟨d.pool.acquire.2.giveBack datagram, .inl ⟨hclosed, ?_⟩⟩
    simp only [hbuffer, enqueue, hpush]
  · refine ⟨d.pool.acquire.2.giveBack datagram, .inr (.inl ⟨hopen, hfull, ?_⟩)⟩
    simp only [hbuffer, enqueue, hpush]
  · refine ⟨d.pool.acquire.2, .inr (.inr ⟨hopen, hroom, ring, hitems, hopen', ?_⟩)⟩
    simp only [hbuffer, enqueue, hpush]

theorem take_cases (d : Dispatcher σ) :
    (d.inFlight.length < d.workers ∧ ∃ datagram ring, d.ring.items = datagram :: ring.items ∧
      ring.closed = d.ring.closed ∧
      d.take = (some datagram, { d with ring, inFlight := d.inFlight ++ [datagram] })) ∨
    (d.inFlight.length < d.workers ∧ d.ring.items = [] ∧ d.ring.closed = true ∧
      d.take = (none, { d with workers := d.workers - 1 })) ∨
    ((d.workers ≤ d.inFlight.length ∨ d.ring.items = [] ∧ d.ring.closed = false) ∧
      d.take = (none, d)) := by
  unfold take
  split
  · rename_i hfree
    obtain ⟨datagram, ring, hpop, hitems, -, hsame⟩ | ⟨hempty, hclosed, hpop⟩ | ⟨hempty, hopen, hpop⟩ :=
      d.ring.pop_cases <;> rw [hpop]
    · exact .inl ⟨hfree, datagram, ring, hitems, hsame, rfl⟩
    · exact .inr (.inl ⟨hfree, hempty, hclosed, rfl⟩)
    · exact .inr (.inr ⟨.inr ⟨hempty, hopen⟩, rfl⟩)
  · rename_i hbusy
    exact .inr (.inr ⟨.inl (Nat.not_lt.mp hbusy), rfl⟩)

theorem complete_cases (handler : Handler σ) (d : Dispatcher σ) (index : Nat) :
    (d.inFlight[index]? = none ∧ d.complete handler index = (none, d)) ∨
    ∃ datagram pool, d.inFlight[index]? = some datagram ∧
      d.complete handler index = (some datagram, { d with
        stats := (process handler datagram d.stats d.state).1
        state := (process handler datagram d.stats d.state).2
        inFlight := d.inFlight.eraseIdx index
        pool }) := by
  unfold complete
  cases h : d.inFlight[index]? with
  | none => exact .inl ⟨rfl, rfl⟩
  | some datagram => exact .inr ⟨datagram, d.pool.giveBack datagram, rfl, rfl⟩

end Dispatcher

end NumaFabric
