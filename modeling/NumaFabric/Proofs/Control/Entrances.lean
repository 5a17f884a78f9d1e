import NumaFabric.Control.Service
import NumaFabric.Proofs.Routing.Guarded
/-!
The two entrances of a node: datagrams come to the ingress, and clients call a service. Main
statement: over the same router a frame leaves the same behind whichever way it comes, the ingress
counts it as what the service answers, and neither breaks down.
-/

namespace NumaFabric

open NumaFabric.Wire

/-- What routing a frame gives: the frame may be rejected, and its command may fail. -/
abbrev FrameAnswer := Except CodecError (Except RouteError RouteOutcome)

inductive Verdict where
  | malformed
  | checksumFailed
  | routed
  | routeFailed
deriving DecidableEq

namespace Verdict

def of : FrameAnswer → Verdict
  | .error e =>
    match e.errorClass with
    | .checksum => checksumFailed
    | .format | .sizeMismatch => malformed
  | .ok (.ok _) => routed
  | .ok (.error _) => routeFailed

theorem rejected_iff (a : FrameAnswer) :
    of a = malformed ∨ of a = checksumFailed ↔ ∃ e, a = .error e := by
  obtain e | _ | _ := a
  · cases e <;> simp [of, CodecError.errorClass]
  · simp [of]
  · simp [of]

theorem of_eq_routed_iff (a : FrameAnswer) :
    of a = routed ↔ ∃ outcome, a = .ok (.ok outcome) := by
  obtain e | _ | _ := a
  · cases e <;> simp [of, CodecError.errorClass]
  · simp [of]
  · simp [of]

theorem of_eq_routeFailed_iff (a : FrameAnswer) :
    of a = routeFailed ↔ ∃ e, a = .ok (.error e) := by
  obtain e | _ | _ := a
  · cases e <;> simp [of, CodecError.errorClass]
  · simp [of]
  · simp [of]

end Verdict

namespace DispatchStats

def count (s : DispatchStats) : Verdict → DispatchStats
  | .malformed => { s with malformed := s.malformed + 1 }
  | .checksumFailed => { s with checksumFailed := s.checksumFailed + 1 }
  | .routed => { s with routed := s.routed + 1 }
  | .routeFailed => { s with routeFailed := s.routeFailed + 1 }

theorem count_inj {s : DispatchStats} {v v' : Verdict} : s.count v = s.count v' ↔ v = v' := by
  constructor
  · intro h
    cases v <;> cases v' <;> simp_all [count]
  · exact congrArg s.count

end DispatchStats

section

variable {φ : Type}

/-- A router as a handler of commands that also notes what the router answers. -/
def Router.noting (forward : Forward φ) :
    Handler (Router φ × List (Except RouteError RouteOutcome)) := fun command (router, noted) =>
  let (handled, after) := Cluster.handler forward command router
  (handled, after, noted ++ [(router.route forward command).1])

def notedOf : FrameAnswer → List (Except RouteError RouteOutcome)
  | .error _ => []
  | .ok answer => [answer]

theorem handler_eq (forward : Forward φ) (r : Router φ) (c : Command) (stats : DispatchStats) :
    (stats.countHandled (Cluster.handler forward c r).1, (Cluster.handler forward c r).2) =
      (stats.count (.of (.ok (r.route forward c).1)), (r.route forward c).2) := by
  unfold Cluster.handler
  split <;> rename_i hroute <;> rw [hroute] <;> rfl

theorem process_handler (forward : Forward φ) (frame : List UInt8) (stats : DispatchStats)
    (r : Router φ) :
    Dispatcher.process (Cluster.handler forward) frame stats r =
      (stats.count (.of (r.routeFrame forward frame).1), (r.routeFrame forward frame).2) := by
  unfold Dispatcher.process Router.routeFrame
  cases decodeFramed frame with
  | error e => cases e <;> rfl
  | ok c => exact handler_eq forward r c stats

theorem process_noting (forward : Forward φ) (frame : List UInt8) (stats : DispatchStats)
    (r : Router φ) :
    Dispatcher.process (Router.noting forward) frame stats (r, []) =
      (stats.count (.of (r.routeFrame forward frame).1), (r.routeFrame forward frame).2,
        notedOf (r.routeFrame forward frame).1) := by
  unfold Dispatcher.process Router.routeFrame
  cases decodeFramed frame with
  | error e => cases e <;> rfl
  | ok c =>
      obtain ⟨hcount, hafter⟩ := Prod.mk.inj (handler_eq forward r c stats)
      change (stats.countHandled (Cluster.handler forward c r).1,
        (Cluster.handler forward c r).2, _) = _
      rw [hcount, hafter]
      rfl

theorem Router.route_ne_delayOverflow (forward : Forward φ) {r : Router φ}
    (h : r.retry.NeverOverflows) (c : Command) :
    (r.route forward c).1 ≠ .error .delayOverflow := by
  rcases r.refused_or_staysHere_or_goesTo c with ⟨e, he⟩ | hhere | ⟨owner, address, haway⟩
  · rw [route_of_refused forward he]
    cases he <;> exact nofun
  · rw [route_of_staysHere forward hhere, applyHere_eq]
    have hends := Retry.run_ne_delayOverflow h MemoryError.isTransient (fun _ => attempt c) r.memory
    generalize Retry.run r.retry MemoryError.isTransient (fun _ => attempt c) r.memory = ran at hends
    obtain ⟨_ | _ | _ | n, memory⟩ := ran
    case delayOverflow => exact absurd rfl (hends n)
    all_goals exact nofun
  · rw [route_of_goesTo forward haway]
    cases (forward owner address c.withFreshChecksum r.links).1 <;> exact nofun

end

section

variable {lk dev : Type}

def responseOf (streamHandle : UInt64) : FrameAnswer → Except ServiceError CommandResponse
  | .error e => .error (.codec e)
  | .ok (.error e) => .error (.route e)
  | .ok (.ok outcome) => .ok (.of streamHandle outcome)

theorem runCommand_eq (b : Backend lk dev) (s : Service lk dev) (frame : List UInt8)
    (streamHandle : UInt64) :
    s.runCommand b frame streamHandle =
      (responseOf streamHandle (s.router.routeFrame b.forward frame).1,
        { s with router := (s.router.routeFrame b.forward frame).2 }) := by
  unfold Service.runCommand Router.routeFrame
  cases decodeFramed frame with
  | error e => rfl
  | ok c =>
      dsimp only
      obtain ⟨_ | _, router⟩ := s.router.route b.forward c <;> rfl

theorem ServiceError.code_route_ne (e : RouteError) : (route e).code ≠ "bad_command" := by
  cases e <;> simp [code]

theorem responseOf_bad_command_iff (streamHandle : UInt64) (a : FrameAnswer) :
    (∃ e, responseOf streamHandle a = .error e ∧ e.code = "bad_command") ↔ ∃ e, a = .error e := by
  obtain e | e | outcome := a
  · simp [responseOf, ServiceError.code]
  · simp [responseOf, ServiceError.code_route_ne]
  · simp [responseOf]

end

namespace Strict

variable {lk dev φ : Type}

/-- A handler of commands; a router that waits too long gives no answer. -/
def handler (forward : Forward φ) (c : Command) (r : Router φ) : Option (Handled × Router φ) := do
  match ← route forward r c with
  | (.ok _, r) => some (.done, r)
  | (.error .delayOverflow, _) => none
  | (.error _, r) => some (.failed, r)

def process (forward : Forward φ) (frame : List UInt8) (stats : DispatchStats) (r : Router φ) :
    Option (DispatchStats × Router φ) := do
  match ← decodeFramed frame with
  | .error e => some (stats.countError e, r)
  | .ok c =>
    let (handled, r) ← handler forward c r
    some (stats.countHandled handled, r)

def runCommand (b : Backend lk dev) (s : Service lk dev) (frame : List UInt8)
    (streamHandle : UInt64) : Option (Except ServiceError CommandResponse × Service lk dev) := do
  match ← decodeFramed frame with
  | .error e => some (.error (.codec e), s)
  | .ok c =>
    match ← route b.forward s.router c with
    | (.ok outcome, router) => some (.ok (.of streamHandle outcome), { s with router })
    | (.error .delayOverflow, _) => none
    | (.error e, router) => some (.error (.route e), { s with router })

theorem handler_eq (forward : Forward φ) (c : Command) {r : Router φ}
    (h : r.retry.NeverOverflows) : handler forward c r = some (Cluster.handler forward c r) := by
  have hends := Router.route_ne_delayOverflow forward h c
  unfold handler Cluster.handler
  rw [route_eq forward r c h, Option.bind_eq_bind, Option.bind_some]
  generalize r.route forward c = routed at hends
  obtain ⟨e | outcome, after⟩ := routed
  · cases e with
    | delayOverflow => exact absurd rfl hends
    | _ => rfl
  · rfl

theorem process_eq (forward : Forward φ) (frame : List UInt8) (stats : DispatchStats) {r : Router φ}
    (h : r.retry.NeverOverflows) :
    process forward frame stats r =
      some (Dispatcher.process (Cluster.handler forward) frame stats r) := by
  unfold process Dispatcher.process
  rw [decodeFramed_eq, Option.bind_eq_bind, Option.bind_some]
  cases Wire.decodeFramed frame with
  | error e => rfl
  | ok c =>
      dsimp only
      rw [handler_eq forward c h, Option.bind_eq_bind, Option.bind_some]

theorem runCommand_eq (b : Backend lk dev) {s : Service lk dev} (h : s.router.retry.NeverOverflows)
    (frame : List UInt8) (streamHandle : UInt64) :
    runCommand b s frame streamHandle = some (s.runCommand b frame streamHandle) := by
  unfold runCommand Service.runCommand
  rw [decodeFramed_eq, Option.bind_eq_bind, Option.bind_some]
  cases Wire.decodeFramed frame with
  | error e => rfl
  | ok c =>
      have hends := Router.route_ne_delayOverflow b.forward h c
      dsimp only
      rw [route_eq b.forward s.router c h, Option.bind_eq_bind, Option.bind_some]
      generalize s.router.route b.forward c = routed at hends
      obtain ⟨e | outcome, after⟩ := routed
      · cases e with
        | delayOverflow => exact absurd rfl hends
        | _ => rfl
      · rfl

end Strict

/-- One frame through the ingress, and through a service, over the same router. -/
structure EntrancesAgree {lk dev : Type} (b : Backend lk dev) (s : Service lk dev)
    (frame : List UInt8) (streamHandle : UInt64) (stats : DispatchStats) : Prop where
  /-- Memory, and the links with all that went over them, are in the router. -/
  same_router : (s.runCommand b frame streamHandle).2 =
    { s with router :=
      (Dispatcher.process (Cluster.handler b.forward) frame stats s.router).2 }
  counted_once : ∃ verdict,
    (Dispatcher.process (Cluster.handler b.forward) frame stats s.router).1 = stats.count verdict
  rejected_iff :
    (Dispatcher.process (Cluster.handler b.forward) frame stats s.router).1 =
        stats.count .malformed ∨
      (Dispatcher.process (Cluster.handler b.forward) frame stats s.router).1 =
        stats.count .checksumFailed ↔
    ∃ e, (s.runCommand b frame streamHandle).1 = .error e ∧ e.code = "bad_command"
  routed_iff :
    (Dispatcher.process (Cluster.handler b.forward) frame stats s.router).1 =
      stats.count .routed ↔
    ∃ outcome,
      (Dispatcher.process (Router.noting b.forward) frame stats (s.router, [])).2.2 =
        [.ok outcome] ∧
      (s.runCommand b frame streamHandle).1 = .ok (.of streamHandle outcome)
  failed_iff :
    (Dispatcher.process (Cluster.handler b.forward) frame stats s.router).1 =
      stats.count .routeFailed ↔
    ∃ e,
      (Dispatcher.process (Router.noting b.forward) frame stats (s.router, [])).2.2 =
        [.error e] ∧
      (s.runCommand b frame streamHandle).1 = .error (.route e)
  noting : ∃ noted,
    Dispatcher.process (Router.noting b.forward) frame stats (s.router, []) =
      ((Dispatcher.process (Cluster.handler b.forward) frame stats s.router).1,
        (Dispatcher.process (Cluster.handler b.forward) frame stats s.router).2, noted)
  /-- A frame that is rejected leaves all as it is, and the router is not asked. -/
  rejected : ∀ e, decodeFramed frame = .error e →
    Dispatcher.process (Router.noting b.forward) frame stats (s.router, []) =
      (stats.countError e, s.router, []) ∧
    s.runCommand b frame streamHandle = (.error (.codec e), s)
  ingress_in_bounds : Strict.process b.forward frame stats s.router =
    some (Dispatcher.process (Cluster.handler b.forward) frame stats s.router)
  service_in_bounds : Strict.runCommand b s frame streamHandle =
    some (s.runCommand b frame streamHandle)

/-- Whatever the frame, over whatever router that tries local memory as often as it does unless told
otherwise. -/
theorem entrancesAgree_of_localMemory {lk dev : Type} (b : Backend lk dev) (s : Service lk dev)
    (frame : List UInt8) (streamHandle : UInt64) (stats : DispatchStats)
    (hretry : s.router.retry = .localMemory) : EntrancesAgree b s frame streamHandle stats := by
  have hwaits : s.router.retry.NeverOverflows := by
    rw [hretry]
    exact Retry.Policy.neverOverflows_linear (by decide)
  have hprocess := process_handler b.forward frame stats s.router
  have hnoting := process_noting b.forward frame stats s.router
  have hcall := runCommand_eq b s frame streamHandle
  constructor
  case same_router => rw [hcall, hprocess]
  case counted_once => exact ⟨_, congrArg Prod.fst hprocess⟩
  case rejected_iff =>
    rw [hprocess, hcall, DispatchStats.count_inj, DispatchStats.count_inj, Verdict.rejected_iff,
      responseOf_bad_command_iff]
  case routed_iff =>
    rw [hprocess, hnoting, hcall, DispatchStats.count_inj, Verdict.of_eq_routed_iff]
    obtain e | e | outcome := (s.router.routeFrame b.forward frame).1 <;> simp [notedOf, responseOf]
  case failed_iff =>
    rw [hprocess, hnoting, hcall, DispatchStats.count_inj, Verdict.of_eq_routeFailed_iff]
    obtain e | e | outcome := (s.router.routeFrame b.forward frame).1 <;> simp [notedOf, responseOf]
  case noting =>
    rw [hprocess, hnoting]
    exact ⟨_, rfl⟩
  case rejected =>
    intro e hrejected
    simp only [Dispatcher.process, Service.runCommand, hrejected, and_self]
  case ingress_in_bounds => exact Strict.process_eq b.forward frame stats hwaits
  case service_in_bounds => exact Strict.runCommand_eq b hwaits frame streamHandle

/-- A service without GPUs, over a router whose memory is busy twice. -/
def busyService : Service (Unit × List Sending) UInt64 :=
  ⟨.ofGpus [] true, Router.busyTwice, .new "default", ⟨"modules", []⟩, 0⟩

def twoByteFrame : List UInt8 :=
  [1, 4, 0x10, 0, 0, 0, 0, 0, 0, 2, 0, 0, 0] ++ List.replicate 19 0 ++ [7, 8] ++
    littleEndian 4 (checksum [7, 8]).toNat

theorem entrancesAgree_twoByteFrame :
    busyService.router.retry = .localMemory ∧
      (busyService.runCommand ⟨Router.takeAll.logged, dryRun⟩ twoByteFrame 9).1.toOption =
        some (.of 9 (.here 1)) ∧
      EntrancesAgree ⟨Router.takeAll.logged, dryRun⟩ busyService twoByteFrame 9 .zero :=
  ⟨rfl, by decide +kernel, entrancesAgree_of_localMemory _ busyService twoByteFrame 9 .zero rfl⟩

end NumaFabric
