import Mathlib.Data.List.Perm.Basic
import NumaFabric.Proofs.Ingress.Tally
import NumaFabric.Proofs.Runs.Transcript
/-!
Runs of an ingress, whoever submits and however many workers take datagrams and finish with them side
by side. Main statement: every datagram that came in is dropped, refused, waiting, with a worker or
in one of the counters, the handler was called once for each finished datagram with a command, and
after a shutdown all that was accepted is finished.
-/

namespace NumaFabric.Dispatcher

open NumaFabric.Wire

variable {σ : Type}

inductive Call where
  | submit (datagram : List UInt8)
  | take
  | complete (index : Nat)
  | close
deriving DecidableEq

inductive Reply where
  /-- Whether the datagram waits now, and whether it came to a closed ring. -/
  | submitted (queued closed : Bool)
  | taken (datagram : Option (List UInt8))
  | completed (datagram : Option (List UInt8))
  | closed
deriving DecidableEq

abbrev Log := List (Call × Reply)

def perform (handler : Handler σ) (d : Dispatcher σ) : Call → Reply × Dispatcher σ
  | .submit datagram => (.submitted (d.submit datagram).1 d.ring.closed, (d.submit datagram).2)
  | .take => (.taken d.take.1, d.take.2)
  | .complete index => (.completed (d.complete handler index).1, (d.complete handler index).2)
  | .close => (.closed, d.close)

def acceptedDatagram? : Call × Reply → Option (List UInt8)
  | (.submit datagram, .submitted true _) => some datagram
  | _ => none

def takenDatagram? : Call × Reply → Option (List UInt8)
  | (.take, .taken datagram) => datagram
  | _ => none

def finishedDatagram? : Call × Reply → Option (List UInt8)
  | (.complete _, .completed datagram) => datagram
  | _ => none

def isSubmission : Call × Reply → Bool
  | (.submit _, _) => true
  | _ => false

def isDrop : Call × Reply → Bool
  | (.submit _, .submitted false false) => true
  | _ => false

def isRefusal : Call × Reply → Bool
  | (.submit _, .submitted false true) => true
  | _ => false

def accepted (log : Log) : List (List UInt8) := log.filterMap acceptedDatagram?

def taken (log : Log) : List (List UInt8) := log.filterMap takenDatagram?

def finished (log : Log) : List (List UInt8) := log.filterMap finishedDatagram?

def submissions (log : Log) : Nat := log.countP isSubmission

def dropped (log : Log) : Nat := log.countP isDrop

def refused (log : Log) : Nat := log.countP isRefusal

theorem accepted_append (log log' : Log) : accepted (log ++ log') = accepted log ++ accepted log' :=
  List.filterMap_append ..

theorem taken_append (log log' : Log) : taken (log ++ log') = taken log ++ taken log' :=
  List.filterMap_append ..

theorem finished_append (log log' : Log) : finished (log ++ log') = finished log ++ finished log' :=
  List.filterMap_append ..

theorem submissions_append (log log' : Log) :
    submissions (log ++ log') = submissions log + submissions log' := List.countP_append ..

theorem dropped_append (log log' : Log) : dropped (log ++ log') = dropped log + dropped log' :=
  List.countP_append ..

theorem refused_append (log log' : Log) : refused (log ++ log') = refused log + refused log' :=
  List.countP_append ..

/-! What one call does. -/

inductive Step (handler : Handler σ) (d : Dispatcher σ) : Call → Reply → Dispatcher σ → Prop where
  | turnedAway (datagram : List UInt8) (pool : BufferPool) :
      Step handler d (.submit datagram) (.submitted false true)
        { d with pool, stats := { d.stats with received := d.stats.received + 1 } }
  | dropped (datagram : List UInt8) (pool : BufferPool) :
      Step handler d (.submit datagram) (.submitted false false)
        { d with pool, stats := { d.stats with
          received := d.stats.received + 1
          droppedFull := d.stats.droppedFull + 1 } }
  | queued (datagram : List UInt8) (pool : BufferPool) {ring : Ring (List UInt8)}
      (hopen : d.ring.closed = false) (hitems : ring.items = d.ring.items ++ [datagram]) :
      Step handler d (.submit datagram) (.submitted true false)
        { d with ring, pool, stats := { d.stats with received := d.stats.received + 1 } }
  | took {datagram : List UInt8} {ring : Ring (List UInt8)}
      (hfree : d.inFlight.length < d.workers) (hitems : d.ring.items = datagram :: ring.items) :
      Step handler d .take (.taken (some datagram))
        { d with ring, inFlight := d.inFlight ++ [datagram] }
  | left (hfree : d.inFlight.length < d.workers) (hempty : d.ring.items = [])
      (hclosed : d.ring.closed = true) :
      Step handler d .take (.taken none) { d with workers := d.workers - 1 }
  | waited : Step handler d .take (.taken none) d
  | ended {index : Nat} {datagram : List UInt8} (pool : BufferPool)
      (hheld : d.inFlight[index]? = some datagram) :
      Step handler d (.complete index) (.completed (some datagram)) { d with
        stats := (process handler datagram d.stats d.state).1
        state := (process handler datagram d.stats d.state).2
        inFlight := d.inFlight.eraseIdx index
        pool }
  | missed (index : Nat) : Step handler d (.complete index) (.completed none) d
  | shut : Step handler d .close .closed d.close

theorem step_perform (handler : Handler σ) (d : Dispatcher σ) (call : Call) :
    Step handler d call (d.perform handler call).1 (d.perform handler call).2 := by
  cases call with
  | submit datagram =>
      rw [perform]
      obtain ⟨pool, ⟨hclosed, hsubmit⟩ | ⟨hopen, -, hsubmit⟩ | ⟨hopen, -, ring, hitems, -, hsubmit⟩⟩ :=
        d.submit_cases datagram
      · rw [hsubmit, hclosed]
        exact .turnedAway datagram pool
      · rw [hsubmit, hopen]
        exact .dropped datagram pool
      · rw [hsubmit, hopen]
        exact .queued datagram pool hopen hitems
  | take =>
      rw [perform]
      obtain ⟨hfree, datagram, ring, hitems, -, htake⟩ | ⟨hfree, hempty, hclosed, htake⟩ |
        ⟨-, htake⟩ := d.take_cases <;> rw [htake]
      · exact .took hfree hitems
      · exact .left hfree hempty hclosed
      · exact .waited
  | complete index =>
      rw [perform]
      obtain ⟨-, hcomplete⟩ | ⟨datagram, pool, hheld, hcomplete⟩ :=
        d.complete_cases handler index <;> rw [hcomplete]
      · exact .missed index
      · exact .ended pool hheld
  | close => exact .shut

/-- Every worker holds one datagram at most, and goes home only when nothing waits and nothing
will. -/
structure Staffed (staff : Nat) (d : Dispatcher σ) : Prop where
  busy_le : d.inFlight.length ≤ d.workers
  workers_le : d.workers ≤ staff
  home : d.workers < staff → d.ring.closed = true ∧ d.ring.items = []

section

variable {handler : Handler σ} {d d' : Dispatcher σ} {call : Call} {reply : Reply}
  (h : Step handler d call reply d')
include h

theorem Step.items_append :
    d.ring.items ++ accepted [(call, reply)] = taken [(call, reply)] ++ d'.ring.items := by
  cases h with
  | queued _ _ _ hitems => exact hitems.symm
  | took _ hitems => exact (List.append_nil _).trans hitems
  | turnedAway | dropped | left | waited | ended | missed | shut => exact List.append_nil _

theorem Step.inFlight_append_perm :
    (d.inFlight ++ taken [(call, reply)]).Perm (finished [(call, reply)] ++ d'.inFlight) := by
  cases h with
  | took => exact .refl _
  | ended _ hheld =>
      obtain ⟨hindex, rfl⟩ := List.getElem?_eq_some_iff.mp hheld
      exact (List.Perm.of_eq (List.append_nil _)).trans
        (List.getElem_cons_eraseIdx_perm hindex).symm
  | turnedAway | dropped | queued | left | waited | missed | shut => exact .of_eq (List.append_nil _)

theorem Step.received_eq :
    d'.stats.received = d.stats.received + .ofNat (submissions [(call, reply)]) := by
  cases h with
  | @ended _ datagram =>
      exact (entrance_process handler datagram d.stats d.state).1.trans (UInt64.add_zero _).symm
  | turnedAway | dropped | queued => rfl
  | took | left | waited | missed | shut => exact (UInt64.add_zero _).symm

theorem Step.droppedFull_eq :
    d'.stats.droppedFull = d.stats.droppedFull + .ofNat (Dispatcher.dropped [(call, reply)]) := by
  cases h with
  | @ended _ datagram =>
      exact (entrance_process handler datagram d.stats d.state).2.trans (UInt64.add_zero _).symm
  | dropped => rfl
  | turnedAway | queued | took | left | waited | missed | shut =>
      exact (UInt64.add_zero _).symm

theorem Step.submissions_eq :
    submissions [(call, reply)] = (accepted [(call, reply)]).length +
      Dispatcher.dropped [(call, reply)] + refused [(call, reply)] := by
  cases h <;> rfl

theorem Step.staffed {staff : Nat} (hs : Staffed staff d) : Staffed staff d' := by
  cases h with
  -- a worker that has gone home has seen the ring closed and empty, so nothing joins or leaves it
  | queued _ _ hopen =>
      refine ⟨hs.busy_le, hs.workers_le, fun hfew => ?_⟩
      have hclosed := (hs.home hfew).1
      rw [hopen] at hclosed
      cases hclosed
  | took hfree hitems =>
      refine ⟨?_, hs.workers_le, fun hfew => ?_⟩
      · rw [List.length_append]
        exact hfree
      · have hempty := (hs.home hfew).2
        rw [hitems] at hempty
        cases hempty
  | left hfree hempty hclosed =>
      refine ⟨Nat.le_sub_one_of_lt hfree, Nat.le_trans (Nat.sub_le ..) hs.workers_le, ?_⟩
      intro _
      exact ⟨hclosed, hempty⟩
  | ended =>
      exact ⟨Nat.le_trans (List.length_eraseIdx_le ..) hs.busy_le, hs.workers_le, hs.home⟩
  | shut => exact ⟨hs.busy_le, hs.workers_le, fun hfew => ⟨rfl, (hs.home hfew).2⟩⟩
  | turnedAway | dropped => exact ⟨hs.busy_le, hs.workers_le, hs.home⟩
  | waited | missed => exact hs

end

theorem Step.tallied {handler : Handler σ} {d d' : Dispatcher (σ × List (Command × Handled))}
    {call : Call} {reply : Reply} (h : Step (recorded handler) d call reply d')
    {done : List (List UInt8)} (ht : Tallied done d.state.2 d.stats) :
    Tallied (done ++ finished [(call, reply)]) d'.state.2 d'.stats := by
  have hsame : Tallied (done ++ []) d.state.2 d.stats := by rwa [List.append_nil]
  cases h with
  | turnedAway | dropped | queued => exact hsame.of_entrance _ _
  | @ended _ datagram => exact ht.concat handler datagram
  | took | left | waited | missed | shut => exact hsame

/-! Runs. -/

structure Accounted (staff : Nat) (log : Log) (d : Dispatcher (σ × List (Command × Handled))) :
    Prop where
  received_eq : d.stats.received = .ofNat (submissions log)
  droppedFull_eq : d.stats.droppedFull = .ofNat (dropped log)
  submissions_eq : submissions log = (accepted log).length + dropped log + refused log
  accepted_eq : accepted log = taken log ++ d.ring.items
  taken_perm : (taken log).Perm (finished log ++ d.inFlight)
  tallied : Tallied (finished log) d.state.2 d.stats
  staffed : Staffed staff d

theorem accounted_fresh (config : DispatcherConfig) (hpos : 0 < config.queueCapacity) (s : σ) :
    Accounted config.workers [] (fresh config (.vacant config.queueCapacity hpos) (s, [])) where
  received_eq := rfl
  droppedFull_eq := rfl
  submissions_eq := rfl
  accepted_eq := rfl
  taken_perm := .refl []
  tallied := tallied_nil
  staffed := ⟨Nat.zero_le _, Nat.le_refl _, fun h => absurd h (Nat.lt_irrefl _)⟩

variable {staff : Nat} {log : Log} {d : Dispatcher (σ × List (Command × Handled))}

theorem Accounted.step {handler : Handler σ} (h : Accounted staff log d)
    {d' : Dispatcher (σ × List (Command × Handled))} {call : Call} {reply : Reply}
    (hstep : Step (recorded handler) d call reply d') :
    Accounted staff (log ++ [(call, reply)]) d' := by
  constructor
  case received_eq =>
    rw [submissions_append, UInt64.ofNat_add, ← h.received_eq, hstep.received_eq]
  case droppedFull_eq =>
    rw [dropped_append, UInt64.ofNat_add, ← h.droppedFull_eq, hstep.droppedFull_eq]
  case submissions_eq =>
    have hbefore := h.submissions_eq
    have hadded := hstep.submissions_eq
    rw [submissions_append, accepted_append, dropped_append, refused_append, List.length_append]
    omega
  case accepted_eq =>
    rw [accepted_append, taken_append, h.accepted_eq, List.append_assoc, List.append_assoc,
      hstep.items_append]
  case taken_perm =>
    rw [taken_append, finished_append]
    refine (h.taken_perm.append_right _).trans ?_
    rw [List.append_assoc, List.append_assoc]
    exact hstep.inFlight_append_perm.append_left _
  case tallied =>
    rw [finished_append]
    exact hstep.tallied h.tallied
  case staffed => exact hstep.staffed h.staffed

theorem Accounted.submissions_eq_places (h : Accounted staff log d) : submissions log =
    dropped log + refused log + d.ring.size + d.inFlight.length + (finished log).length := by
  have hsubmissions := h.submissions_eq
  have haccepted := congrArg List.length h.accepted_eq
  have htaken := h.taken_perm.length_eq
  rw [List.length_append] at haccepted htaken
  rw [Ring.size]
  omega

structure Drained (log : Log) (d : Dispatcher (σ × List (Command × Handled))) : Prop where
  queue_empty : d.ring.size = 0
  nothing_taken : d.inFlight = []
  finished_perm : (finished log).Perm (accepted log)
  counted : .ofNat (accepted log).length =
    d.stats.malformed + d.stats.checksumFailed + d.stats.routed + d.stats.routeFailed
  counted_exactly : (accepted log).length < UInt64.size →
    (accepted log).length = d.stats.malformed.toNat + d.stats.checksumFailed.toNat +
      d.stats.routed.toNat + d.stats.routeFailed.toNat

theorem Accounted.drained (h : Accounted staff log d) (hhome : d.workers = 0) (hstaff : 0 < staff) :
    Drained log d := by
  have hempty : d.ring.items = [] := (h.staffed.home (hhome ▸ hstaff)).2
  have hnothing : d.inFlight = [] := by
    apply List.eq_nil_of_length_eq_zero
    have := h.staffed.busy_le
    omega
  have hperm : (finished log).Perm (accepted log) := by
    have htaken := h.taken_perm
    rw [hnothing, List.append_nil] at htaken
    rw [h.accepted_eq, hempty, List.append_nil]
    exact htaken.symm
  refine ⟨?_, hnothing, hperm, ?_, ?_⟩
  · rw [Ring.size, hempty]
    rfl
  · rw [← hperm.length_eq, h.tallied.counted]
  · rw [← hperm.length_eq]
    exact h.tallied.counted_exactly

/-! A shutdown is a run. -/

section

variable (handler : Handler σ)

theorem work_eq_after (n : Nat) (d : Dispatcher σ) :
    work handler n d =
      Machine.after (perform handler) d (List.replicate n [Call.take, .complete 0]).flatten := by
  induction n generalizing d with
  | zero => rfl
  | succ n ih =>
      rw [work, ih, List.replicate_succ, List.flatten_cons, Machine.after_append]
      rfl

theorem complete_first (d : Dispatcher σ) :
    (d.complete handler 0).2.inFlight.length = d.inFlight.length - 1 ∧
      (d.complete handler 0).2.ring = d.ring ∧ (d.complete handler 0).2.workers = d.workers := by
  obtain ⟨hnone, hcomplete⟩ | ⟨datagram, pool, hheld, hcomplete⟩ := d.complete_cases handler 0 <;>
    rw [hcomplete]
  · have hempty := List.getElem?_eq_none_iff.mp hnone
    refine ⟨?_, rfl, rfl⟩
    change d.inFlight.length = d.inFlight.length - 1
    omega
  · obtain ⟨hindex, -⟩ := List.getElem?_eq_some_iff.mp hheld
    exact ⟨List.length_eraseIdx_of_lt hindex, rfl, rfl⟩

/-- One datagram after the other: there is one less to finish, and whoever is needed stays. -/
theorem pending_complete_take {d : Dispatcher σ} (h : d.ring.items ≠ [] → d.workers ≠ 0) :
    (d.take.2.complete handler 0).2.inFlight.length + (d.take.2.complete handler 0).2.ring.size =
        d.inFlight.length + d.ring.size - 1 ∧
      (d.take.2.complete handler 0).2.ring.closed = d.ring.closed ∧
      ((d.take.2.complete handler 0).2.ring.items ≠ [] →
        (d.take.2.complete handler 0).2.workers ≠ 0) := by
  -- a take moves one datagram at most, so the count falls by the one that is finished
  obtain ⟨hlength, hring, hworkers⟩ := complete_first handler d.take.2
  rw [hlength, hring, hworkers, Ring.size, Ring.size]
  obtain ⟨hfree, datagram, ring, hitems, hsame, htake⟩ | ⟨hfree, hempty, hclosed, htake⟩ |
    ⟨hbusy, htake⟩ := d.take_cases <;> rw [htake]
  · refine ⟨?_, hsame, fun _ => Nat.ne_zero_of_lt hfree⟩
    simp only [hitems, List.length_append, List.length_cons, List.length_nil]
    omega
  · refine ⟨?_, rfl, fun hwaits => absurd hempty hwaits⟩
    simp only [hempty, List.length_nil]
    omega
  · refine ⟨?_, rfl, h⟩
    change d.inFlight.length - 1 + d.ring.items.length = _
    by_cases hwaits : d.ring.items = []
    · rw [hwaits, List.length_nil]
      omega
    · have hworkers := h hwaits
      rcases hbusy with hbusy | ⟨hempty, -⟩
      · omega
      · exact absurd hempty hwaits

theorem pending_work (n : Nat) {d : Dispatcher σ} (h : d.ring.items ≠ [] → d.workers ≠ 0) :
    (work handler n d).inFlight.length + (work handler n d).ring.size =
        d.inFlight.length + d.ring.size - n ∧
      (work handler n d).ring.closed = d.ring.closed := by
  induction n generalizing d with
  | zero => exact ⟨rfl, rfl⟩
  | succ n ih =>
      obtain ⟨hpending, hclosed, hstaffed⟩ := pending_complete_take handler h
      obtain ⟨hrest, hclosed'⟩ := ih hstaffed
      rw [work, hrest, hpending, hclosed', hclosed]
      exact ⟨by omega, rfl⟩

theorem after_takes {d : Dispatcher σ} (hclosed : d.ring.closed = true) (hempty : d.ring.items = [])
    (hnothing : d.inFlight = []) (n : Nat) :
    Machine.after (perform handler) d (List.replicate n .take) =
      { d with workers := d.workers - n } := by
  induction n generalizing d with
  | zero => rfl
  | succ n ih =>
      have htake : d.take.2 = { d with workers := d.workers - 1 } := by
        obtain ⟨-, datagram, ring, hitems, -⟩ | ⟨-, -, -, htake⟩ | ⟨hbusy | ⟨-, hopen⟩, htake⟩ :=
          d.take_cases
        · rw [hempty] at hitems
          cases hitems
        · rw [htake]
        · rw [hnothing] at hbusy
          have hhome : d.workers - 1 = d.workers := by
            rw [Nat.le_zero.mp hbusy]
          rw [htake, hhome]
        · rw [hclosed] at hopen
          cases hopen
      calc
        Machine.after (perform handler) d (List.replicate (n + 1) .take) =
            Machine.after (perform handler) d.take.2 (List.replicate n .take) := rfl
        _ = { d with workers := d.workers - 1 - n } := by
          rw [htake]
          exact ih hclosed hempty hnothing
        _ = { d with workers := d.workers - (n + 1) } := by
          rw [Nat.sub_sub, Nat.add_comm]

theorem exists_shutdown_eq_after (d : Dispatcher σ) :
    ∃ calls, d.shutdown handler = Machine.after (perform handler) d calls := by
  by_cases hstaffed : d.workers = 0
  · have hsettle : settle handler d.close = d.close := if_pos hstaffed
    refine ⟨[.close], ?_⟩
    rw [shutdown, hsettle, ← hstaffed]
    rfl
  · let n := d.close.inFlight.length + d.close.ring.size
    let settled := work handler n d.close
    obtain ⟨hpending, hclosed⟩ : settled.inFlight.length + settled.ring.size = n - n ∧ _ :=
      pending_work handler n (d := d.close) fun _ => hstaffed
    rw [Nat.sub_self, Ring.size] at hpending
    have hempty : settled.ring.items = [] := List.eq_nil_of_length_eq_zero (by omega)
    have hnothing : settled.inFlight = [] := List.eq_nil_of_length_eq_zero (by omega)
    -- all that waits is finished, and then every worker finds the closed ring empty
    refine ⟨.close :: (List.replicate n [Call.take, .complete 0]).flatten ++
      List.replicate settled.workers .take, ?_⟩
    calc
      d.shutdown handler = { settled with workers := 0 } := by
        have hsettle : settle handler d.close = settled := if_neg hstaffed
        rw [shutdown, hsettle]
      _ = Machine.after (perform handler) settled (List.replicate settled.workers .take) := by
        rw [after_takes handler hclosed hempty hnothing, Nat.sub_self]
      _ = _ := by
        rw [Machine.after_append, show settled = _ from work_eq_after handler n d.close]
        rfl

end

/-! The record does not change what is recorded. -/

def unrecorded (d : Dispatcher (σ × List (Command × Handled))) : Dispatcher σ :=
  { d with state := d.state.1 }

theorem take_unrecorded (d : Dispatcher (σ × List (Command × Handled))) :
    d.unrecorded.take = (d.take.1, d.take.2.unrecorded) := by
  have hring : d.unrecorded.ring = d.ring := rfl
  unfold take
  by_cases hfree : d.inFlight.length < d.workers
  · have hfree' : d.unrecorded.inFlight.length < d.unrecorded.workers := hfree
    rw [if_pos hfree, if_pos hfree', hring]
    obtain ⟨popped, ring⟩ := d.ring.pop
    cases popped <;> rfl
  · have hbusy : ¬ d.unrecorded.inFlight.length < d.unrecorded.workers := hfree
    rw [if_neg hfree, if_neg hbusy]

theorem perform_unrecorded (handler : Handler σ) (d : Dispatcher (σ × List (Command × Handled)))
    (call : Call) :
    d.unrecorded.perform handler call =
      ((d.perform (recorded handler) call).1, (d.perform (recorded handler) call).2.unrecorded) := by
  cases call with
  | submit datagram =>
      simp only [perform, submit, enqueue, unrecorded]
      cases d.ring.push (d.pool.acquire.1 ++ datagram) with
      | ok ring => rfl
      | error cause => cases cause <;> rfl
  | take =>
      rw [perform, perform, take_unrecorded]
  | complete index =>
      simp only [perform, complete, unrecorded]
      cases d.inFlight[index]? with
      | none => rfl
      | some datagram =>
          obtain ⟨hstats, hstate⟩ := recorded_process handler datagram d.stats d.state
          simp only [hstats, hstate]
  | close => rfl

/-! All runs. -/

section

variable (config : DispatcherConfig) (hpos : 0 < config.queueCapacity) (handler : Handler σ) (s : σ)

/-- An ingress after some calls, with a record of what its handler was given. -/
def reached (calls : List Call) : Dispatcher (σ × List (Command × Handled)) :=
  Machine.after (perform (recorded handler))
    (fresh config (.vacant config.queueCapacity hpos) (s, [])) calls

def history (calls : List Call) : Log :=
  Machine.log (perform (recorded handler))
    (fresh config (.vacant config.queueCapacity hpos) (s, [])) calls

theorem accounted_reached (calls : List Call) :
    Accounted config.workers (history config hpos handler s calls)
      (reached config hpos handler s calls) :=
  Machine.invariant (perform (recorded handler)) (accounted_fresh config hpos s)
    (fun _ d call h => h.step (step_perform (recorded handler) d call)) calls

/-- What holds of an ingress after the calls of `log`. -/
structure Conserved (staff : Nat) (log : Log) (d : Dispatcher (σ × List (Command × Handled))) :
    Prop where
  received_eq : d.stats.received = .ofNat (submissions log)
  droppedFull_eq : d.stats.droppedFull = .ofNat (dropped log)
  /-- Every submission ended in one place, whatever the counters have wrapped around to. -/
  submissions_eq : submissions log =
    dropped log + refused log + d.ring.size + d.inFlight.length + (finished log).length
  finished_eq : (finished log).length =
    (finished log).countP isMalformed + (finished log).countP isCorrupt +
      (d.state.2.countP fun call => call.2 = .done) + d.state.2.countP fun call => ¬ call.2 = .done
  balance : d.stats.received = d.stats.droppedFull + .ofNat (refused log) + .ofNat d.ring.size +
    .ofNat d.inFlight.length + d.stats.malformed + d.stats.checksumFailed + d.stats.routed +
    d.stats.routeFailed
  balance_exactly : submissions log < UInt64.size →
    d.stats.received.toNat = d.stats.droppedFull.toNat + refused log + d.ring.size +
      d.inFlight.length + d.stats.malformed.toNat + d.stats.checksumFailed.toNat +
      d.stats.routed.toNat + d.stats.routeFailed.toNat
  /-- A submission is answered with yes if the datagram joins the queue. -/
  queued : ∀ datagram,
    (d.submit datagram).1 = true ∧ (d.submit datagram).2.ring.items = d.ring.items ++ [datagram] ∨
      (d.submit datagram).1 = false ∧ (d.submit datagram).2.ring = d.ring
  accepted_eq : accepted log = taken log ++ d.ring.items
  taken_perm : (taken log).Perm (finished log ++ d.inFlight)
  /-- The handler was given the commands of the finished datagrams, and all of these are counted. -/
  tallied : Tallied (finished log) d.state.2 d.stats
  drained : d.workers = 0 → 0 < staff → Drained log d

theorem Accounted.conserved {staff : Nat} {log : Log}
    {d : Dispatcher (σ × List (Command × Handled))} (h : Accounted staff log d) :
    Conserved staff log d := by
  constructor
  case received_eq => exact h.received_eq
  case droppedFull_eq => exact h.droppedFull_eq
  case submissions_eq => exact h.submissions_eq_places
  case finished_eq => exact h.tallied.length_eq
  case balance =>
    rw [h.received_eq, h.droppedFull_eq, h.submissions_eq_places]
    simp only [UInt64.ofNat_add, h.tallied.counted, UInt64.add_assoc]
  case balance_exactly =>
    intro hfew
    have hplaces := h.submissions_eq_places
    have hcounted := h.tallied.counted_exactly (by omega)
    rw [h.received_eq, h.droppedFull_eq, UInt64.toNat_ofNat_of_lt' hfew,
      UInt64.toNat_ofNat_of_lt' (by omega)]
    omega
  case queued =>
    intro datagram
    obtain ⟨pool, ⟨-, hsubmit⟩ | ⟨-, -, hsubmit⟩ | ⟨-, -, ring, hitems, -, hsubmit⟩⟩ :=
      d.submit_cases datagram <;> rw [hsubmit]
    · exact .inr ⟨rfl, rfl⟩
    · exact .inr ⟨rfl, rfl⟩
    · exact .inl ⟨rfl, hitems⟩
  case accepted_eq => exact h.accepted_eq
  case taken_perm => exact h.taken_perm
  case tallied => exact h.tallied
  case drained => exact h.drained

/-- A shutdown is one more run, after which no worker is left. -/
theorem conserved_after (calls : List Call) :
    (∀ d, start config s = .ok d → d = fresh config (.vacant config.queueCapacity hpos) s) ∧
      (reached config hpos handler s calls).unrecorded =
        Machine.after (perform handler) (fresh config (.vacant config.queueCapacity hpos) s) calls ∧
      Conserved config.workers (history config hpos handler s calls)
        (reached config hpos handler s calls) ∧
      ∃ more, (reached config hpos handler s calls).shutdown (recorded handler) =
          reached config hpos handler s (calls ++ more) ∧
        (reached config hpos handler s (calls ++ more)).workers = 0 ∧
        (0 < config.workers → Drained (history config hpos handler s (calls ++ more))
          (reached config hpos handler s (calls ++ more))) := by
  refine ⟨?_, ?_, (accounted_reached config hpos handler s calls).conserved, ?_⟩
  · intro d hstart
    rw [start] at hstart
    cases hnew : Ring.new (α := List UInt8) config.queueCapacity with
    | error e =>
        rw [hnew] at hstart
        cases hstart
    | ok ring =>
        rw [hnew] at hstart
        cases hstart
        rw [Ring.eq_vacant_of_new hnew hpos]
  · exact ((Machine.simulation (perform_unrecorded handler) _ calls).2).symm
  · obtain ⟨more, hshutdown⟩ :=
      exists_shutdown_eq_after (recorded handler) (reached config hpos handler s calls)
    rw [reached, ← Machine.after_append] at hshutdown
    have hhome : (reached config hpos handler s (calls ++ more)).workers = 0 := by
      rw [reached, ← hshutdown]
      rfl
    exact ⟨more, hshutdown, hhome,
      (accounted_reached config hpos handler s (calls ++ more)).drained hhome⟩

end

def counting : Handler Nat := fun c n => if c.destination = 0xdead then (.brokeDown, n) else (.done, n + 1)

def frameFor (destination : Address) : List UInt8 :=
  (encodeFramed (.copy destination [1, 2, 3])).toOption.getD []

/-- The third datagram is dropped, and the fifth comes too late. The second worker finishes first. -/
def rush : List Call :=
  [.submit (frameFor 0x40), .submit [1, 2, 3], .submit (frameFor 0x80), .take, .take,
    .submit (frameFor 0xdead), .complete 1, .close, .submit (frameFor 0x40)]

theorem conserved_after_rush :
    0 < 2 ∧ (reached ⟨2, 2, 64⟩ (by decide) counting 0 rush).stats = ⟨5, 1, 1, 0, 0, 0⟩ ∧
      (reached ⟨2, 2, 64⟩ (by decide) counting 0 rush).inFlight = [frameFor 0x40] ∧
      Conserved 2 (history ⟨2, 2, 64⟩ (by decide) counting 0 rush)
        (reached ⟨2, 2, 64⟩ (by decide) counting 0 rush) ∧
      ((reached ⟨2, 2, 64⟩ (by decide) counting 0 rush).shutdown (recorded counting)).stats =
        ⟨5, 1, 1, 0, 1, 1⟩ ∧
      ∃ more, Drained (history ⟨2, 2, 64⟩ (by decide) counting 0 (rush ++ more))
        ((reached ⟨2, 2, 64⟩ (by decide) counting 0 rush).shutdown (recorded counting)) := by
  obtain ⟨-, -, hconserved, more, hshutdown, -, hdrained⟩ :=
    conserved_after ⟨2, 2, 64⟩ (by decide) counting 0 rush
  refine ⟨by decide, by decide +kernel, by decide +kernel, hconserved, by decide +kernel, more, ?_⟩
  rw [hshutdown]
  exact hdrained (by decide)

end NumaFabric.Dispatcher
