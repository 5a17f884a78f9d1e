import Mathlib.Logic.Function.Basic
import NumaFabric.Link.Loopback
import NumaFabric.Proofs.Runs.Transcript
import NumaFabric.Proofs.Store.Floor

namespace NumaFabric.LoopbackNet

inductive Action where
  | init
  | setPeer (peer : Nat)
  | send (data : List UInt8)
  | receive
  | register (region : Region)
  | unregister (handle : RegistrationHandle)
  | close
  | destroy

def Action.needsReady : Action → Bool
  | send _ | receive | register _ => true
  | _ => false

inductive Call where
  | create
  | on (n : Nat) (action : Action)

inductive Reply where
  | done
  | frame (data : List UInt8)
  | pending
  | registered (handle : RegistrationHandle)
  | failed (cause : TransferError)
  | gone

def conclude (net : LoopbackNet) : Except TransferError LoopbackNet → Reply × LoopbackNet
  | .ok net' => (.done, net')
  | .error cause => (.failed cause, net)

def act (net : LoopbackNet) (n : Nat) (e : LoopbackEndpoint) : Action → Reply × LoopbackNet
  | .init => net.conclude (net.init n e)
  | .setPeer peer => (.done, net.wire n e peer)
  | .send data => net.conclude (net.send e data)
  | .receive =>
    match net.receive n e with
    | .ok (.frame data, net') => (.frame data, net')
    | .ok (.pending, net') => (.pending, net')
    | .error cause => (.failed cause, net)
  | .register region =>
    match net.register n e region with
    | .ok (handle, net') => (.registered handle, net')
    | .error cause => (.failed cause, net)
  | .unregister handle => net.conclude (net.unregister n e handle)
  | .close => (.done, net.close n e)
  | .destroy => (.done, net.destroy n e)

def perform : Machine LoopbackNet Call Reply
  | net, .create => (.done, ⟨net.endpoints ++ [.new]⟩)
  | net, .on n action =>
    match net.endpoint? n with
    | some e => net.act n e action
    | none => (.gone, net)

def empty : LoopbackNet := ⟨[]⟩

variable {net net' : LoopbackNet} {n m : Nat} {e e' : LoopbackEndpoint}

theorem endpoint?_eq_some_iff :
    net.endpoint? n = some e ↔ net.endpoints[n]? = some e ∧ e.destroyed = false := by
  simp [endpoint?, Option.filter_eq_some_iff]

theorem lt_length_of_endpoint? (h : net.endpoint? n = some e) : n < net.endpoints.length :=
  (List.getElem?_eq_some_iff.mp (endpoint?_eq_some_iff.mp h).1).1

theorem endpoint?_set_self (h : net.endpoint? n = some e) (hlive : e'.destroyed = false) :
    (net.set n e').endpoint? n = some e' := by
  refine endpoint?_eq_some_iff.mpr ⟨?_, hlive⟩
  exact List.getElem?_set_self (lt_length_of_endpoint? h)

theorem endpoint?_set_of_ne (hne : m ≠ n) (e' : LoopbackEndpoint) :
    (net.set n e').endpoint? m = net.endpoint? m := by
  rw [endpoint?, set, List.getElem?_set_ne (Ne.symm hne)]
  rfl

theorem length_set (net : LoopbackNet) (n : Nat) (e : LoopbackEndpoint) :
    (net.set n e).endpoints.length = net.endpoints.length := List.length_set

theorem endpoint?_create_of_ne (hne : m ≠ net.endpoints.length) :
    (perform net .create).2.endpoint? m = net.endpoint? m := by
  change Option.filter _ (net.endpoints ++ [LoopbackEndpoint.new])[m]? = _
  rcases Nat.lt_or_gt_of_ne hne with hlt | hgt
  · rw [List.getElem?_append_left hlt]
    rfl
  · rw [List.getElem?_append_right (Nat.le_of_lt hgt), endpoint?, List.getElem?_eq_none,
      List.getElem?_eq_none (Nat.le_of_lt hgt)]
    rw [List.length_singleton]
    omega

theorem endpoint?_create_self (net : LoopbackNet) :
    (perform net .create).2.endpoint? net.endpoints.length = some .new :=
  endpoint?_eq_some_iff.mpr ⟨List.getElem?_concat_length, rfl⟩

inductive Outcome (net : LoopbackNet) (n : Nat) (e : LoopbackEndpoint) :
    Action → Reply → LoopbackNet → Prop
  | refused {action : Action} (cause : TransferError) : Outcome net n e action (.failed cause) net
  | pending (hready : e.phase = .ready) (hempty : e.inbox = []) :
      Outcome net n e .receive .pending net
  | closedBefore (hclosed : e.phase = .closed) : Outcome net n e .close .done net
  | init (hcreated : e.phase = .created) :
      Outcome net n e .init .done (net.set n { e with phase := .ready })
  | setPeer (peer : Nat) : Outcome net n e (.setPeer peer) .done (net.set n { e with peer := some peer })
  | sent {data : List UInt8} {target : Nat} {t : LoopbackEndpoint} (hready : e.phase = .ready)
      (hpeer : e.peer = some target) (htarget : net.endpoint? target = some t) :
      Outcome net n e (.send data) .done (net.set target { t with inbox := t.inbox ++ [data] })
  | received {data : List UInt8} {rest : List (List UInt8)} (hready : e.phase = .ready)
      (hinbox : e.inbox = data :: rest) :
      Outcome net n e .receive (.frame data) (net.set n { e with inbox := rest })
  | registered {region : Region} {handle : RegistrationHandle} {registrations : RegistrationTable}
      (hready : e.phase = .ready) :
      Outcome net n e (.register region) (.registered handle) (net.set n { e with registrations })
  | unregistered {handle : RegistrationHandle} {registrations : RegistrationTable}
      (h : e.registrations.unregister handle = .ok registrations) :
      Outcome net n e (.unregister handle) .done (net.set n { e with registrations })
  | closed (hopen : e.phase ≠ .closed) :
      Outcome net n e .close .done (net.set n { e with
        phase := .closed, peer := none, registrations := e.registrations.clear.2 })
  | destroyed :
      Outcome net n e .destroy .done (net.set n { e with destroyed := true, inbox := [] })

theorem exists_ensureReady_eq_error {p : Phase} (h : p ≠ .ready) :
    ∃ cause, p.ensureReady = .error cause := by
  cases p with
  | ready => exact absurd rfl h
  | created => exact ⟨_, rfl⟩
  | closed => exact ⟨_, rfl⟩

/-- What only a ready endpoint can do fails on another one, and does nothing. -/
theorem act_of_not_ready {action : Action} (hneeds : action.needsReady = true) {cause : TransferError}
    (h : e.phase.ensureReady = .error cause) : net.act n e action = (.failed cause, net) := by
  cases action with
  | send data => simp [act, conclude, send, h, bind, Except.bind]
  | receive => simp [act, receive, h, bind, Except.bind]
  | register region => simp [act, register, h, bind, Except.bind]
  | _ => cases hneeds

theorem outcome_of_not_ready {action : Action} (hneeds : action.needsReady = true)
    (hready : e.phase ≠ .ready) :
    Outcome net n e action (net.act n e action).1 (net.act n e action).2 := by
  obtain ⟨cause, hcause⟩ := exists_ensureReady_eq_error hready
  rw [act_of_not_ready hneeds hcause]
  exact .refused cause

theorem outcome_act (net : LoopbackNet) (n : Nat) (e : LoopbackEndpoint) (action : Action) :
    Outcome net n e action (net.act n e action).1 (net.act n e action).2 := by
  cases action with
  | init =>
      cases hphase : e.phase with
      | created =>
          simp only [act, conclude, init, hphase, Phase.init]
          exact .init hphase
      | ready | closed =>
          simp only [act, conclude, init, hphase, Phase.init]
          exact .refused _
  | setPeer peer => exact .setPeer peer
  | send data =>
      by_cases hready : e.phase = .ready
      · cases hpeer : e.peer with
        | none =>
            simp only [act, conclude, send, hready, hpeer, Phase.ensureReady]
            exact .refused .noPeer
        | some target =>
            simp only [act, conclude, send, hready, hpeer, Phase.ensureReady, deliver]
            cases htarget : net.endpoint? target with
            | none => exact .refused .closed
            | some t => exact .sent hready hpeer htarget
      · exact outcome_of_not_ready rfl hready
  | receive =>
      by_cases hready : e.phase = .ready
      · cases hinbox : e.inbox with
        | nil =>
            simp only [act, receive, hready, hinbox, Phase.ensureReady]
            exact .pending hready hinbox
        | cons data rest =>
            have hact : net.act n e .receive = (.frame data, net.set n { e with inbox := rest }) := by
              simp [act, receive, hready, hinbox, Phase.ensureReady, bind, Except.bind, pure,
                Except.pure]
            rw [hact]
            exact .received hready hinbox
      · exact outcome_of_not_ready rfl hready
  | register region =>
      by_cases hready : e.phase = .ready
      · cases hregister : e.registrations.register region with
        | error cause =>
            simp only [act, register, hready, hregister, Phase.ensureReady]
            exact .refused cause
        | ok result =>
            have hact : net.act n e (.register region) =
                (.registered result.1, net.set n { e with registrations := result.2 }) := by
              simp [act, register, hready, hregister, Phase.ensureReady, bind, Except.bind, pure,
                Except.pure]
            rw [hact]
            exact .registered hready
      · exact outcome_of_not_ready rfl hready
  | unregister handle =>
      cases hunregister : e.registrations.unregister handle with
      | error cause =>
          simp only [act, conclude, unregister, hunregister]
          exact .refused cause
      | ok registrations =>
          simp only [act, conclude, unregister, hunregister]
          exact .unregistered hunregister
  | close =>
      by_cases hclosed : e.phase = .closed
      · simp only [act, close, if_pos hclosed]
        exact .closedBefore hclosed
      · simp only [act, close, if_neg hclosed]
        exact .closed hclosed
  | destroy => exact .destroyed

end NumaFabric.LoopbackNet
