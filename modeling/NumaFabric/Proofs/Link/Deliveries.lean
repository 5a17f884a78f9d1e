import NumaFabric.Proofs.Link.Cached
import NumaFabric.Proofs.Runs.Transcript
import NumaFabric.Proofs.Wire.RoundTrip

namespace NumaFabric

open NumaFabric.Wire

/-- A registry whose transports are made in any way, and lead into one inbox. -/
def Hub.wired (make : Nat → TransportMake) (port : UInt16) : Wiring Hub := ⟨make, port, Hub.deliver⟩

def Hub.taking (hub : Hub) (data : List UInt8) : Except TransferError Unit → Hub
  | .ok () => { hub with inbox := hub.inbox ++ [data] }
  | .error _ => hub

theorem TransferError.breaksLink_iff (e : TransferError) :
    e.breaksLink = true ↔ e = .closed ∨ e = .notInitialized := by
  cases e <;> simp [breaksLink]

namespace Connections

section

variable {σ : Type} {w : Wiring σ} {c : Connections} {peer q : IpAddress}

theorem acquire_of_cached {n : Nat} (h : c.lookup? peer = some n) :
    c.acquire w peer = (.ok n, c) := by
  simp only [acquire, h]

theorem acquire_of_missing (h : c.lookup? peer = none) :
    c.acquire w peer = c.connect w peer := by
  simp only [acquire, h]

theorem Kept.acquire (h : Kept w c) (peer : IpAddress) : Kept w (c.acquire w peer).2 := by
  cases hlookup : c.lookup? peer with
  | some n =>
      rw [acquire_of_cached hlookup]
      exact h
  | none =>
      rw [acquire_of_missing hlookup]
      exact h.connect hlookup

theorem length_made_acquire (w : Wiring σ) (c : Connections) (peer : IpAddress) :
    (c.acquire w peer).2.made.length =
      c.made.length + if (c.lookup? peer).isNone then 1 else 0 := by
  cases hlookup : c.lookup? peer with
  | some n =>
      rw [acquire_of_cached hlookup]
      rfl
  | none =>
      rw [acquire_of_missing hlookup]
      cases hsetUp : setUp w c.made.length peer with
      | ok t =>
          rw [connect_of_setUp_ok hsetUp]
          exact List.length_append
      | error e =>
          obtain ⟨t, -, hconnect⟩ := exists_connect_eq_of_setUp_error hsetUp
          rw [hconnect]
          exact List.length_append

theorem lookup?_acquire {n : Nat} (h : c.lookup? q = some n) (w : Wiring σ) (peer : IpAddress) :
    (c.acquire w peer).2.lookup? q = some n := by
  cases hlookup : c.lookup? peer with
  | some m =>
      rw [acquire_of_cached hlookup]
      exact h
  | none =>
      rw [acquire_of_missing hlookup]
      cases hsetUp : setUp w c.made.length peer with
      | ok t =>
          rw [connect_of_setUp_ok hsetUp, lookup?_append]
          change c.cached.lookup q = some n at h
          rw [h, Option.some_or]
      | error e =>
          obtain ⟨t, -, hconnect⟩ := exists_connect_eq_of_setUp_error hsetUp
          rw [hconnect]
          exact h

def candidate (w : Wiring σ) (c : Connections) (peer : IpAddress) : Except TransferError Transport :=
  match c.lookup? peer with
  | some n =>
    match c.transport? n with
    | some t => .ok t
    | none => .error .notInitialized
  | none => setUp w c.made.length peer

theorem acquire_cases (h : Kept w c) (peer : IpAddress) :
    (∃ e, c.candidate w peer = .error e ∧
      c.acquire w peer = (.error e, (c.acquire w peer).2) ∧ c.lookup? peer = none) ∨
    ∃ n t, c.candidate w peer = .ok t ∧ c.acquire w peer = (.ok n, (c.acquire w peer).2) ∧
      (c.acquire w peer).2.transport? n = some t := by
  cases hlookup : c.lookup? peer with
  | some n =>
      obtain ⟨_, -, ht⟩ := h.cached peer n hlookup
      right
      rw [acquire_of_cached hlookup]
      rcases ht with ht | ht <;>
        exact ⟨n, _, by simp only [candidate, hlookup, ht], rfl, ht⟩
  | none =>
      rw [acquire_of_missing hlookup]
      cases hsetUp : setUp w c.made.length peer with
      | error e =>
          obtain ⟨t, -, hconnect⟩ := exists_connect_eq_of_setUp_error hsetUp
          rw [hconnect]
          exact .inl ⟨e, by simp only [candidate, hlookup, hsetUp], rfl, rfl⟩
      | ok t =>
          rw [connect_of_setUp_ok hsetUp]
          refine .inr ⟨c.made.length, t, ?_, rfl, transport?_append_self t _⟩
          simp only [candidate, hlookup, hsetUp]

theorem afterSend_cases (c : Connections) (peer : IpAddress) (result : Except TransferError Unit) :
    c.afterSend peer result = c ∨ c.afterSend peer result = c.evict peer ∧
      (result = .error .closed ∨ result = .error .notInitialized) := by
  cases result with
  | ok _ => exact .inl rfl
  | error e =>
      by_cases hbroken : e.breaksLink = true
      · exact .inr ⟨if_pos hbroken,
          (e.breaksLink_iff.mp hbroken).imp (congrArg _) (congrArg _)⟩
      · exact .inl (if_neg hbroken)

theorem Kept.afterSend (h : Kept w c) (peer : IpAddress) (result : Except TransferError Unit) :
    Kept w (c.afterSend peer result) := by
  obtain hsame | ⟨hevict, -⟩ := c.afterSend_cases peer result
  · rw [hsame]
    exact h
  · rw [hevict]
    exact h.evict peer

theorem made_afterSend (c : Connections) (peer : IpAddress) (result : Except TransferError Unit) :
    (c.afterSend peer result).made = c.made := by
  obtain hsame | ⟨hevict, -⟩ := c.afterSend_cases peer result
  · rw [hsame]
  · rw [hevict]
    rfl

theorem lookup?_afterSend (c : Connections) (peer q : IpAddress)
    (result : Except TransferError Unit) :
    (c.afterSend peer result).lookup? q = c.lookup? q ∨
      (c.afterSend peer result).lookup? q = none ∧ q = peer ∧
        (result = .error .closed ∨ result = .error .notInitialized) := by
  obtain hsame | ⟨hevict, hbroken⟩ := c.afterSend_cases peer result
  · exact .inl (by rw [hsame])
  · rw [hevict, lookup?_evict]
    by_cases hq : q = peer
    · exact .inr ⟨if_pos hq, hq, hbroken⟩
    · exact .inl (if_neg hq)

end

variable {make : Nat → TransportMake} {port : UInt16} {c : Connections} {hub : Hub}

theorem transmit_hub (hlive : hub.destroyed = false) {n : Nat} {t : Transport}
    (h : c.transport? n = some t) (data : List UInt8) :
    c.transmit (Hub.wired make port) n data hub = (t.answer, hub.taking data t.answer) := by
  simp only [transmit, h, Transport.answer]
  cases t.phase.ensureReady with
  | error e => rfl
  | ok _ =>
      cases t.wired with
      | false => rfl
      | true => simp [Hub.wired, Hub.deliver, hlive, Hub.taking]

inductive Call where
  | forward (owner : NodeId) (peer : IpAddress) (command : Command)
  | sendTo (peer : IpAddress) (data : List UInt8)
  | connection (peer : IpAddress)
  | closeAll
  | closeTransport (n : Nat)

inductive Reply where
  | sent (result : Except TransferError Unit)
  | connected (result : Except TransferError Nat)
  | closed

namespace Call

def sends? : Call → Option (IpAddress × List UInt8)
  | forward _ peer command => (encodeFramed command).toOption.map (peer, ·)
  | sendTo peer data => some (peer, data)
  | connection _ | closeAll | closeTransport _ => none

def peer? : Call → Option IpAddress
  | connection peer => some peer
  | call => call.sends?.map (·.1)

theorem peer?_of_sends? {call : Call} {peer : IpAddress} {data : List UInt8}
    (h : call.sends? = some (peer, data)) : call.peer? = some peer := by
  cases call with
  | forward _ _ _ => exact congrArg (Option.map (·.1)) h
  | sendTo _ _ => exact congrArg (Option.map (·.1)) h
  | _ => cases h

def misses (call : Call) (c : Connections) : Bool :=
  call.peer?.any fun peer => (c.lookup? peer).isNone

end Call

def arrived? : Call × Reply → Option (List UInt8)
  | (call, .sent (.ok ())) => call.sends?.map (·.2)
  | _ => none

def perform (w : Wiring Hub) : Machine (Connections × Hub) Call Reply
  | s, .forward owner peer command =>
    let (result, s) := forward w owner peer command s
    (.sent result, s)
  | (c, hub), .sendTo peer data =>
    let (result, c, hub) := c.sendTo w peer data hub
    (.sent result, c, hub)
  | (c, hub), .connection peer =>
    let (result, c) := c.acquire w peer
    (.connected result, c, hub)
  | (c, hub), .closeAll => (.closed, c.closeAll, hub)
  | (c, hub), .closeTransport n => (.closed, c.closeTransport n, hub)

inductive Step (w : Wiring Hub) (c : Connections) (hub : Hub) :
    Call → Reply → Connections → Hub → Prop
  | unwritable {owner : NodeId} {peer : IpAddress} {command : Command} {e : CodecError}
      (h : encodeFramed command = .error e) :
      Step w c hub (.forward owner peer command) (.sent (.error (.codec e))) c hub
  | refused {call : Call} {peer : IpAddress} {data : List UInt8} {e : TransferError}
      (hsends : call.sends? = some (peer, data)) (hnone : c.lookup? peer = none)
      (hcandidate : c.candidate w peer = .error e) :
      Step w c hub call (.sent (.error e)) (c.acquire w peer).2 hub
  | answered {call : Call} {peer : IpAddress} {data : List UInt8} {t : Transport}
      (hsends : call.sends? = some (peer, data)) (hcandidate : c.candidate w peer = .ok t) :
      Step w c hub call (.sent t.answer) ((c.acquire w peer).2.afterSend peer t.answer)
        (hub.taking data t.answer)
  | connection (peer : IpAddress) :
      Step w c hub (.connection peer) (.connected (c.acquire w peer).1) (c.acquire w peer).2 hub
  | closeAll : Step w c hub .closeAll .closed c.closeAll hub
  | closeTransport (n : Nat) : Step w c hub (.closeTransport n) .closed (c.closeTransport n) hub

theorem step_sendTo (hlive : hub.destroyed = false) (h : Kept (Hub.wired make port) c) {call : Call}
    {peer : IpAddress} {data : List UInt8} (hsends : call.sends? = some (peer, data)) :
    let sent := c.sendTo (Hub.wired make port) peer data hub
    Step (Hub.wired make port) c hub call (.sent sent.1) sent.2.1 sent.2.2 := by
  intro sent
  obtain ⟨e, hcandidate, herror, hnone⟩ | ⟨n, t, hcandidate, hok, ht⟩ := acquire_cases h peer
  · have hsent : sent = (.error e, (c.acquire (Hub.wired make port) peer).2, hub) := by
      unfold sent sendTo
      rw [herror]
    rw [hsent]
    exact .refused hsends hnone hcandidate
  · have hsent : sent = (t.answer, (c.acquire (Hub.wired make port) peer).2.afterSend peer t.answer,
        hub.taking data t.answer) := by
      unfold sent sendTo
      rw [hok]
      dsimp only
      rw [transmit_hub hlive ht]
    rw [hsent]
    exact .answered hsends hcandidate

theorem step_perform (hlive : hub.destroyed = false) (h : Kept (Hub.wired make port) c)
    (call : Call) :
    let next := perform (Hub.wired make port) (c, hub) call
    Step (Hub.wired make port) c hub call next.1 next.2.1 next.2.2 := by
  cases call with
  | forward owner peer command =>
      cases hframe : encodeFramed command with
      | error e =>
          simp only [perform, forward, hframe]
          exact .unwritable hframe
      | ok frame =>
          simp only [perform, forward, hframe]
          exact step_sendTo hlive h (by simp only [Call.sends?, hframe]; rfl)
  | sendTo peer data => exact step_sendTo hlive h rfl
  | connection peer => exact .connection peer
  | closeAll => exact .closeAll
  | closeTransport n => exact .closeTransport n

namespace Step

variable {w : Wiring Hub} {c' : Connections} {hub' : Hub} {call : Call} {reply : Reply}

theorem kept (hstep : Step w c hub call reply c' hub') (h : Kept w c) : Kept w c' := by
  cases hstep with
  | unwritable _ => exact h
  | refused _ _ _ => exact h.acquire _
  | answered _ _ => exact (h.acquire _).afterSend _ _
  | connection peer => exact h.acquire peer
  | closeAll => exact h.closeAll.1
  | closeTransport n => exact h.closeTransport n

theorem length_made (hstep : Step w c hub call reply c' hub') (h : Kept w c) :
    c'.made.length = c.made.length + if call.misses c then 1 else 0 := by
  cases hstep with
  | unwritable hframe => simp [Call.misses, Call.peer?, Call.sends?, hframe, Except.toOption]
  | refused hsends _ _ =>
      rw [length_made_acquire, Call.misses, Call.peer?_of_sends? hsends, Option.any_some]
  | answered hsends _ =>
      rw [made_afterSend, length_made_acquire, Call.misses, Call.peer?_of_sends? hsends,
        Option.any_some]
  | connection peer => exact length_made_acquire w c peer
  | closeAll => exact h.closeAll.2.1
  | closeTransport n => exact (c.closeTransport_eq n).2.1

theorem lookup? (hstep : Step w c hub call reply c' hub') (h : Kept w c) {q : IpAddress} {n : Nat}
    (hlookup : c.lookup? q = some n) :
    c'.lookup? q = some n ∨ c'.lookup? q = none ∧ (call = .closeAll ∨
      (∃ data, call.sends? = some (q, data)) ∧
        (reply = .sent (.error .closed) ∨ reply = .sent (.error .notInitialized))) := by
  cases hstep with
  | unwritable _ => exact .inl hlookup
  | refused _ _ _ => exact .inl (lookup?_acquire hlookup w _)
  | @answered _ peer data t hsends _ =>
      have hacquire := lookup?_acquire hlookup w peer
      obtain hsame | ⟨hnone, rfl, hbroken⟩ :=
        lookup?_afterSend (c.acquire w peer).2 peer q t.answer
      · exact .inl (hsame.trans hacquire)
      · refine .inr ⟨hnone, .inr ⟨⟨data, hsends⟩, ?_⟩⟩
        exact hbroken.imp (congrArg _) (congrArg _)
  | connection peer => exact .inl (lookup?_acquire hlookup w peer)
  | closeAll => exact .inr ⟨h.closeAll.2.2 q, .inl rfl⟩
  | closeTransport m =>
      refine .inl ?_
      rw [Connections.lookup?, (c.closeTransport_eq m).1]
      exact hlookup

theorem hub_eq (hstep : Step w c hub call reply c' hub') :
    hub' = { hub with inbox := hub.inbox ++ (arrived? (call, reply)).toList } := by
  cases hstep with
  | @answered _ _ data t hsends _ =>
      cases t.answer with
      | ok _ => simp [Hub.taking, arrived?, hsends]
      | error e => simp [Hub.taking, arrived?]
  | _ => simp [arrived?]

theorem reply_eq (hstep : Step w c hub call reply c' hub') {peer : IpAddress} {data : List UInt8}
    (hsends : call.sends? = some (peer, data)) :
    reply = .sent ((c.candidate w peer).bind Transport.answer) := by
  cases hstep with
  | unwritable hframe => simp [Call.sends?, hframe, Except.toOption] at hsends
  | refused hsends' _ hcandidate =>
      obtain ⟨rfl, rfl⟩ := Prod.mk.inj (Option.some.inj (hsends.symm.trans hsends'))
      rw [hcandidate]
      rfl
  | answered hsends' hcandidate =>
      obtain ⟨rfl, rfl⟩ := Prod.mk.inj (Option.some.inj (hsends.symm.trans hsends'))
      rw [hcandidate]
      rfl
  | _ => cases hsends

end Step

/-- Where a registry and its inbox stand after the calls of `log`. -/
structure Reached (w : Wiring Hub) (log : List (Call × Reply)) (s : Connections × Hub) : Prop where
  kept : Kept w s.1
  live : s.2.destroyed = false
  inbox : s.2.inbox = log.filterMap arrived?

theorem Reached.perform {log : List (Call × Reply)} {s : Connections × Hub}
    (h : Reached (Hub.wired make port) log s) (call : Call) :
    Reached (Hub.wired make port)
      (log ++ [(call, (Connections.perform (Hub.wired make port) s call).1)])
      (Connections.perform (Hub.wired make port) s call).2 := by
  have hstep := step_perform h.live h.kept call
  refine ⟨hstep.kept h.kept, ?_, ?_⟩
  · rw [hstep.hub_eq]
    exact h.live
  · rw [hstep.hub_eq, h.inbox, List.filterMap_append]
    rfl

theorem reached_after (make : Nat → TransportMake) (port : UInt16) (calls : List Call) :
    Reached (Hub.wired make port)
      ((perform (Hub.wired make port)).log (.empty, Hub.empty) calls)
      ((perform (Hub.wired make port)).after (.empty, Hub.empty) calls) := by
  have hstart : Reached (Hub.wired make port) [] (.empty, Hub.empty) :=
    ⟨kept_empty _, rfl, rfl⟩
  exact Machine.invariant _ hstart (fun _ _ call h => h.perform call) calls

theorem Kept.lookup?_ne_of_error {w : Wiring Hub} (h : Kept w c) {n : Nat} {peer : IpAddress}
    {e : TransferError} (hfails : setUp w n peer = .error e) (q : IpAddress) :
    c.lookup? q ≠ some n := by
  intro hlookup
  obtain ⟨t, hok, -⟩ := h.cached q n hlookup
  exact setUp_ne_ok_of_error hfails t hok

/-- What a frame is read as: the command, if its payload has the checksum that it claims. -/
theorem decodeFramed_of_encodeFramed {command : Command} {frame : List UInt8}
    (h : encodeFramed command = .ok frame) :
    decodeFramed frame = .ok command ↔ command.IsIntact := by
  rw [decodeFramed_eq_ok_iff]
  constructor
  · exact And.left
  · intro hintact
    unfold encodeFramed at h
    split at h
    · cases h
    · rename_i hmax
      refine ⟨hintact, Nat.le_of_not_gt hmax, List.replicate reservedLength 0, [],
        List.length_replicate .., ?_⟩
      rw [← Except.ok.inj h, encodeHeader_eq, List.append_nil, List.append_assoc]

theorem exists_frame_of_reply {w : Wiring Hub} {s : Connections × Hub} {owner : NodeId}
    {peer : IpAddress} {command : Command}
    (h : (perform w s (.forward owner peer command)).1 = .sent (.ok ())) :
    ∃ frame, encodeFramed command = .ok frame := by
  cases hframe : encodeFramed command with
  | ok frame => exact ⟨frame, rfl⟩
  | error e =>
      simp only [perform, forward, hframe] at h
      cases h

/-- What holds of a registry and its inbox after the calls of `log`, whatever comes next. -/
structure KeepsConnections (w : Wiring Hub) (log : List (Call × Reply)) (s : Connections × Hub) :
    Prop where
  one_per_peer : (s.1.cached.map (·.1)).Nodup
  made_once : ∀ call, (perform w s call).2.1.made.length =
    s.1.made.length + if call.misses s.1 then 1 else 0
  /-- What is cached was made ready for its peer, and may have been closed since. -/
  set_up : ∀ peer n, s.1.lookup? peer = some n →
    ∃ t, setUp w n peer = .ok t ∧ t.phase = .ready ∧ t.peer = .of peer w.peerPort ∧
      (s.1.transport? n = some t ∨ s.1.transport? n = some t.close)
  failed_closed : ∀ n t peer e, s.1.transport? n = some t → setUp w n peer = .error e →
    t.phase = .closed ∧ ∀ q, s.1.lookup? q ≠ some n
  dropped_by : ∀ call peer n, s.1.lookup? peer = some n →
    (perform w s call).2.1.lookup? peer = some n ∨
    (perform w s call).2.1.lookup? peer = none ∧ (call = .closeAll ∨
      (∃ data, call.sends? = some (peer, data)) ∧
        ((perform w s call).1 = .sent (.error .closed) ∨
          (perform w s call).1 = .sent (.error .notInitialized)))
  /-- A send is answered by the transport that is cached for the peer, or by a new one. -/
  answered_by : ∀ call peer data, call.sends? = some (peer, data) →
    (perform w s call).1 = .sent ((s.1.candidate w peer).bind Transport.answer)
  arrived : s.2.inbox = log.filterMap arrived?
  frames : ∀ owner peer command, (.forward owner peer command, .sent (.ok ())) ∈ log →
    ∃ frame, encodeFramed command = .ok frame ∧
      arrived? (.forward owner peer command, .sent (.ok ())) = some frame ∧
      (decodeFramed frame = .ok command ↔ command.IsIntact)

/-- Whatever a registry is asked, however its transports are made, if they lead into one inbox. -/
theorem keepsConnections_after (make : Nat → TransportMake) (port : UInt16) (calls : List Call) :
    KeepsConnections (Hub.wired make port)
      ((perform (Hub.wired make port)).log (.empty, Hub.empty) calls)
      ((perform (Hub.wired make port)).after (.empty, Hub.empty) calls) := by
  have hreached := reached_after make port calls
  have hstep := step_perform hreached.live hreached.kept
  constructor
  case one_per_peer => exact hreached.kept.nodup
  case made_once =>
    intro call
    exact (hstep call).length_made hreached.kept
  case set_up =>
    intro peer n hlookup
    obtain ⟨t, hok, ht⟩ := hreached.kept.cached peer n hlookup
    obtain ⟨hready, hpeer⟩ := ready_of_setUp hok
    exact ⟨t, hok, hready, hpeer, ht⟩
  case failed_closed =>
    intro n t peer e ht hfails
    exact ⟨hreached.kept.failed n t peer e ht hfails, hreached.kept.lookup?_ne_of_error hfails⟩
  case dropped_by =>
    intro call peer n hlookup
    exact (hstep call).lookup? hreached.kept hlookup
  case answered_by =>
    intro call peer data hsends
    exact (hstep call).reply_eq hsends
  case arrived => exact hreached.inbox
  case frames =>
    intro owner peer command hin
    obtain ⟨s, hreply⟩ := Machine.exists_of_mem_log _ hin
    obtain ⟨frame, hframe⟩ := exists_frame_of_reply hreply
    refine ⟨frame, hframe, ?_, decodeFramed_of_encodeFramed hframe⟩
    simp only [arrived?, Call.sends?, hframe]
    rfl

example :
    let calls : List Call :=
      [.sendTo (.v4 ⟨10, 0, 0, 2⟩) [1], .closeTransport 0, .sendTo (.v4 ⟨10, 0, 0, 2⟩) [2],
        .sendTo (.v4 ⟨10, 0, 0, 2⟩) [3]]
    let s := (perform (Hub.wired (fun _ => .ok) 5555)).after (.empty, Hub.empty) calls
    s.2.inbox = [[1], [3]] ∧ s.1.cached = [(.v4 ⟨10, 0, 0, 2⟩, 1)] := by decide

end Connections

end NumaFabric
