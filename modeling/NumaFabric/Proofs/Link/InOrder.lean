import NumaFabric.Proofs.Link.Phases
/-!
Runs of endpoints in one process. Main statement: however they are wired, closed and destroyed, each of
them receives the frames that were sent into its inbox, in order and none twice, and as long as it is
ready it receives all of them.
-/

namespace NumaFabric.LoopbackNet

/-- What the calls so far say of each endpoint. -/
structure Ledger where
  peer : Nat → Option Nat
  sent : Nat → List (List UInt8)
  received : Nat → List (List UInt8)

namespace Ledger

def empty : Ledger := ⟨fun _ => none, fun _ => [], fun _ => []⟩

def note (l : Ledger) : Call × Reply → Ledger
  | (.on n (.setPeer peer), .done) => { l with peer := Function.update l.peer n (some peer) }
  | (.on n (.send data), .done) =>
    match l.peer n with
    | some target =>
      { l with sent := Function.update l.sent target (l.sent target ++ [data]) }
    | none => l
  | (.on n .receive, .frame data) =>
    { l with received := Function.update l.received n (l.received n ++ [data]) }
  | _ => l

theorem note_failed (l : Ledger) (n : Nat) (action : Action) (cause : TransferError) :
    l.note (.on n action, .failed cause) = l := by
  cases action <;> rfl

theorem note_gone (l : Ledger) (n : Nat) (action : Action) : l.note (.on n action, .gone) = l := by
  cases action <;> rfl

def noteAll (l : Ledger) (log : List (Call × Reply)) : Ledger := log.foldl note l

def waiting (l : Ledger) (n : Nat) : List (List UInt8) := (l.sent n).drop (l.received n).length

def SameAt (l l' : Ledger) (n : Nat) : Prop :=
  l'.peer n = l.peer n ∧ l'.sent n = l.sent n ∧ l'.received n = l.received n

end Ledger

def ledger (log : List (Call × Reply)) : Ledger := Ledger.empty.noteAll log

theorem ledger_append (log log' : List (Call × Reply)) :
    ledger (log ++ log') = (ledger log).noteAll log' := List.foldl_append

/-- The ledger is right about an endpoint, which has live registrations only while it is ready. -/
structure Tallies (l : Ledger) (n : Nat) (e : LoopbackEndpoint) : Prop where
  peer : e.phase ≠ .closed → e.peer = l.peer n
  inbox : l.sent n = l.received n ++ e.inbox
  unregistered : e.phase ≠ .ready → e.registrations.live = .empty

structure Agrees (l : Ledger) (net : LoopbackNet) : Prop where
  tallies : ∀ n e, net.endpoint? n = some e → Tallies l n e
  inOrder : ∀ n, l.received n <+: l.sent n
  unused : ∀ n, net.endpoints.length ≤ n → Ledger.SameAt .empty l n

variable {l l' : Ledger} {net net' : LoopbackNet} {n m : Nat} {e e' : LoopbackEndpoint}

theorem agrees_empty : Agrees .empty LoopbackNet.empty where
  tallies n e h := by cases h
  inOrder _ := List.prefix_rfl
  unused _ _ := ⟨rfl, rfl, rfl⟩

theorem Agrees.waiting_eq (h : Agrees l net) (hn : net.endpoint? n = some e) :
    l.waiting n = e.inbox := by
  rw [Ledger.waiting, (h.tallies n e hn).inbox, List.drop_left]

theorem Agrees.set (h : Agrees l net) (hn : net.endpoint? n = some e)
    (hself : Tallies l' n e') (hothers : ∀ m, m ≠ n → Ledger.SameAt l l' m) :
    Agrees l' (net.set n e') := by
  have hlt := lt_length_of_endpoint? hn
  refine ⟨?_, ?_, ?_⟩
  · intro m e₀ hm
    rcases endpoint?_set_eq_some hn hm with ⟨rfl, rfl⟩ | ⟨hmn, hm⟩
    · exact hself
    · obtain ⟨hpeer, hinbox, hunregistered⟩ := h.tallies m e₀ hm
      obtain ⟨hp, hs, hr⟩ := hothers m hmn
      exact ⟨fun hopen => (hpeer hopen).trans hp.symm, by rw [hs, hr, hinbox], hunregistered⟩
  · intro m
    by_cases hmn : m = n
    · subst hmn
      rw [hself.inbox]
      exact List.prefix_append _ _
    · obtain ⟨-, hs, hr⟩ := hothers m hmn
      rw [hs, hr]
      exact h.inOrder m
  · intro m hm
    rw [length_set] at hm
    obtain ⟨hp, hs, hr⟩ := hothers m (by omega)
    obtain ⟨hp', hs', hr'⟩ := h.unused m hm
    exact ⟨hp.trans hp', hs.trans hs', hr.trans hr'⟩

theorem Agrees.create (h : Agrees l net) : Agrees l (perform net .create).2 := by
  refine ⟨?_, h.inOrder, ?_⟩
  · intro m e hm
    by_cases hmn : m = net.endpoints.length
    · subst hmn
      rw [endpoint?_create_self] at hm
      obtain rfl := Option.some.inj hm
      obtain ⟨hp, hs, hr⟩ := h.unused _ (Nat.le_refl _)
      refine ⟨fun _ => hp.symm, ?_, fun _ => rfl⟩
      rw [hs, hr]
      rfl
    · rw [endpoint?_create_of_ne hmn] at hm
      exact h.tallies m e hm
  · intro m hm
    apply h.unused
    change (net.endpoints ++ [LoopbackEndpoint.new]).length ≤ m at hm
    rw [List.length_append] at hm
    omega

theorem Agrees.destroy (h : Agrees l net) (hn : net.endpoint? n = some e)
    (hdead : e'.destroyed = true) : Agrees l (net.set n e') := by
  refine ⟨?_, h.inOrder, ?_⟩
  · intro m e₀ hm
    have hlive := (endpoint?_eq_some_iff.mp hm).2
    rcases endpoint?_set_eq_some hn hm with ⟨-, rfl⟩ | ⟨-, hm⟩
    · rw [hdead] at hlive
      cases hlive
    · exact h.tallies m e₀ hm
  · intro m hm
    rw [length_set] at hm
    exact h.unused m hm

theorem Agrees.outcome (h : Agrees l net) (hn : net.endpoint? n = some e) {action : Action}
    {reply : Reply} (hout : Outcome net n e action reply net') :
    Agrees (l.note (.on n action, reply)) net' := by
  obtain ⟨hpeer, hinbox, hunregistered⟩ := h.tallies n e hn
  have hsame : ∀ m, m ≠ n → Ledger.SameAt l l m := fun _ _ => ⟨rfl, rfl, rfl⟩
  cases hout with
  | refused cause =>
      rw [l.note_failed]
      exact h
  | pending _ _ => exact h
  | closedBefore _ => exact h
  | init hcreated =>
      have htallies : Tallies l n { e with phase := .ready } :=
        ⟨fun _ => hpeer (by simp [hcreated]), hinbox, fun hne => absurd rfl hne⟩
      exact h.set hn htallies hsame
  | setPeer peer =>
      refine h.set hn ⟨fun _ => ?_, hinbox, hunregistered⟩ fun m hmn => ?_
      · exact (Function.update_self n (some peer) l.peer).symm
      · exact ⟨Function.update_of_ne hmn .., rfl, rfl⟩
  | @sent data target t hready hto htarget =>
      obtain ⟨htpeer, htinbox, htunregistered⟩ := h.tallies target t htarget
      have hledger : l.peer n = some target := by
        rw [← hpeer (by simp [hready]), hto]
      simp only [Ledger.note, hledger]
      refine h.set htarget ⟨htpeer, ?_, htunregistered⟩
        fun m hmt => ⟨rfl, Function.update_of_ne hmt .., rfl⟩
      change Function.update l.sent target _ target = _
      rw [Function.update_self, htinbox, List.append_assoc]
  | @received data rest hready hwaiting =>
      refine h.set hn ⟨hpeer, ?_, hunregistered⟩
        fun m hmn => ⟨rfl, rfl, Function.update_of_ne hmn ..⟩
      change l.sent n = Function.update l.received n _ n ++ rest
      rw [Function.update_self, hinbox, hwaiting, List.append_assoc]
      rfl
  | @registered _ _ registrations hready =>
      have htallies : Tallies l n { e with registrations } :=
        ⟨hpeer, hinbox, fun hne => absurd hready hne⟩
      exact h.set hn htallies hsame
  | @unregistered handle registrations hok =>
      -- where nothing is registered, no handle ends a registration
      have hready : e.phase = .ready := by
        apply Decidable.byContradiction
        intro hne
        rw [RegistrationTable.unregister, hunregistered hne, OrderedMap.get?_empty] at hok
        cases hok
      have htallies : Tallies l n { e with registrations } :=
        ⟨hpeer, hinbox, fun hne => absurd hready hne⟩
      exact h.set hn htallies hsame
  | closed _ =>
      have htallies : Tallies l n { e with
          phase := .closed, peer := none, registrations := e.registrations.clear.2 } :=
        ⟨fun hne => absurd rfl hne, hinbox, fun _ => rfl⟩
      exact h.set hn htallies hsame
  | destroyed => exact h.destroy hn rfl

theorem Agrees.answer (h : Agrees l net) (call : Call) :
    Agrees (l.note (call, (perform net call).1)) (perform net call).2 := by
  cases call with
  | create => exact h.create
  | on n action =>
      cases hn : net.endpoint? n with
      | none =>
          simp only [perform, hn]
          rw [l.note_gone]
          exact h
      | some e =>
          simp only [perform, hn]
          exact h.outcome hn (outcome_act net n e action)

theorem Agrees.after (h : Agrees l net) (calls : List Call) :
    Agrees (l.noteAll (perform.log net calls)) (perform.after net calls) := by
  refine Machine.invariant perform (P := fun log net => Agrees (l.noteAll log) net) h ?_ calls
  intro log net call hlog
  rw [Ledger.noteAll, List.foldl_append]
  exact hlog.answer call

theorem prefix_update_append (frames : Nat → List (List UInt8)) (n m : Nat) (data : List UInt8) :
    frames m <+: Function.update frames n (frames n ++ [data]) m := by
  by_cases hmn : m = n
  · subst hmn
    rw [Function.update_self]
    exact List.prefix_append _ _
  · simp only [Function.update_of_ne hmn, List.prefix_rfl]

theorem Ledger.sent_prefix_note (l : Ledger) (entry : Call × Reply) (n : Nat) :
    l.sent n <+: (l.note entry).sent n := by
  unfold note
  split
  · exact List.prefix_rfl
  · split
    · exact prefix_update_append ..
    · exact List.prefix_rfl
  · exact List.prefix_rfl
  · exact List.prefix_rfl

theorem Ledger.received_prefix_note (l : Ledger) (entry : Call × Reply) (n : Nat) :
    l.received n <+: (l.note entry).received n := by
  unfold note
  split
  · exact List.prefix_rfl
  · split <;> exact List.prefix_rfl
  · exact prefix_update_append ..
  · exact List.prefix_rfl

theorem Ledger.sent_prefix_noteAll (l : Ledger) (log : List (Call × Reply)) (n : Nat) :
    l.sent n <+: (l.noteAll log).sent n := by
  induction log generalizing l with
  | nil => exact List.prefix_rfl
  | cons entry log ih => exact (l.sent_prefix_note entry n).trans (ih _)

theorem Agrees.received_append_waiting (h : Agrees l net) (n : Nat) :
    l.received n ++ l.waiting n = l.sent n :=
  (List.prefix_iff_eq_append.mp (h.inOrder n))

theorem Agrees.next (h : Agrees l net) (hready : net.IsReady n) :
    (perform net (.on n .receive)).1 = (l.waiting n).head?.elim .pending .frame := by
  obtain ⟨e, hn, hphase⟩ := hready
  rw [h.waiting_eq hn]
  simp only [perform, hn, act, receive, hphase, Phase.ensureReady]
  cases e.inbox <;> rfl

def Call.receives (n : Nat) : Call → Bool
  | .on m .receive => m == n
  | _ => false

theorem Call.eq_of_receives {call : Call} (h : call.receives n = true) : call = .on n .receive := by
  unfold receives at h
  split at h
  · rw [beq_iff_eq.mp h]
  · cases h

theorem Agrees.received_receive (h : Agrees l net) (hready : net.IsReady n) :
    (l.note (.on n .receive, (perform net (.on n .receive)).1)).received n =
      l.received n ++ (l.waiting n).take 1 := by
  rw [h.next hready]
  cases l.waiting n with
  | nil => exact (List.append_nil _).symm
  | cons data rest => exact Function.update_self ..

/-- By counting: the receives of a ready endpoint come to nothing only where nothing waits. -/
theorem Agrees.length_le_received (h : Agrees l net) (later : List Call) (hnow : net.IsReady n)
    (hlater : (perform.after net later).IsReady n) :
    min ((l.received n).length + later.countP (Call.receives n)) (l.sent n).length ≤
      ((l.noteAll (perform.log net later)).received n).length := by
  induction later generalizing l net with
  | nil => exact Nat.min_le_left _ _
  | cons call later ih =>
      have hrest := ih (h.answer call) (hnow.between hlater) hlater
      have hsent := (l.sent_prefix_note (call, (perform net call).1) n).length_le
      have hreceived := (l.received_prefix_note (call, (perform net call).1) n).length_le
      refine Nat.le_trans ?_ hrest
      by_cases hcall : call.receives n = true
      · obtain rfl := Call.eq_of_receives hcall
        have hall := congrArg List.length (h.received_append_waiting n)
        rw [List.length_append] at hall
        rw [List.countP_cons_of_pos hcall, h.received_receive hnow, List.length_append,
          List.length_take]
        omega
      · rw [List.countP_cons_of_neg hcall]
        omega

theorem Agrees.delivered (h : Agrees l net) (later : List Call) (hnow : net.IsReady n)
    (hlater : (perform.after net later).IsReady n) :
    l.received n ++ (l.waiting n).take (later.countP (Call.receives n)) <+:
      (l.noteAll (perform.log net later)).received n := by
  have hsent : l.received n ++ (l.waiting n).take (later.countP (Call.receives n)) <+: l.sent n := by
    rw [← h.received_append_waiting n, List.prefix_append_right_inj]
    exact List.take_prefix _ _
  refine List.prefix_of_prefix_length_le (hsent.trans (l.sent_prefix_noteAll _ n))
    ((h.after later).inOrder n) ?_
  have hall := congrArg List.length (h.received_append_waiting n)
  have hcount := h.length_le_received later hnow hlater
  rw [List.length_append] at hall ⊢
  rw [List.length_take]
  omega

theorem Agrees.accepted_iff (h : Agrees l net) (n : Nat) (data : List UInt8) :
    (perform net (.on n (.send data))).1 = .done ↔
      net.IsReady n ∧ ∃ target e, l.peer n = some target ∧ net.endpoint? target = some e := by
  constructor
  · intro hdone
    cases hn : net.endpoint? n with
    | none =>
        simp only [perform, hn] at hdone
        cases hdone
    | some e =>
        simp only [perform, hn] at hdone
        have hout := outcome_act net n e (.send data)
        rw [hdone] at hout
        generalize (net.act n e (.send data)).2 = net' at hout
        cases hout with
        | @sent _ target t hready hto htarget =>
            have hpeer := (h.tallies n e hn).peer (by simp [hready])
            exact ⟨⟨e, hn, hready⟩, target, t, hpeer.symm.trans hto, htarget⟩
  · rintro ⟨⟨e₀, hn, hphase⟩, target, e, hpeer, htarget⟩
    have hto : e₀.peer = some target := by
      rw [(h.tallies n e₀ hn).peer (by simp [hphase]), hpeer]
    simp only [perform, hn, act, send, hphase, Phase.ensureReady, hto, deliver, htarget]
    rfl

/-- The endpoints after a run, and in whatever is done with them next. -/
structure Reliable (log : List (Call × Reply)) (net : LoopbackNet) : Prop where
  inOrder : ∀ n, (ledger log).received n <+: (ledger log).sent n
  next : ∀ n, net.IsReady n → (perform net (.on n .receive)).1 =
    ((ledger log).waiting n).head?.elim .pending .frame
  /-- As many waiting frames as receives are made of an endpoint that stays ready. -/
  delivered : ∀ n later, net.IsReady n → (perform.after net later).IsReady n →
    (ledger log).received n ++ ((ledger log).waiting n).take (later.countP (Call.receives n)) <+:
      (ledger (log ++ perform.log net later)).received n
  accepted_iff : ∀ n data, (perform net (.on n (.send data))).1 = .done ↔
    net.IsReady n ∧ ∃ target e, (ledger log).peer n = some target ∧ net.endpoint? target = some e
  moves : ∀ n call e', n < net.endpoints.length → (perform net call).2.endpoint? n = some e' →
    ∃ e, net.endpoint? n = some e ∧ Moves n call e.phase e'.phase
  starts : ∀ e, (perform net .create).2.endpoint? net.endpoints.length = some e → e.phase = .created
  initialized : ∀ n e, net.endpoint? n = some e → e.phase = .created →
    (perform net (.on n .init)).1 = .done ∧ (perform net (.on n .init)).2.IsReady n
  forward : ∀ n later e', n < net.endpoints.length →
    (perform.after net later).endpoint? n = some e' →
      ∃ e, net.endpoint? n = some e ∧ e.phase.rank ≤ e'.phase.rank
  refused : ∀ n e action, net.endpoint? n = some e → e.phase ≠ .ready →
    action.needsReady = true → ∃ cause, e.phase.ensureReady = .error cause ∧
      perform net (.on n action) = (.failed cause, net)
  unregistered : ∀ n e, net.endpoint? n = some e → e.phase ≠ .ready →
    e.registrations.live = .empty
  closeTwice : ∀ n, perform (perform net (.on n .close)).2 (.on n .close) =
    perform net (.on n .close)

theorem reliable_after (calls : List Call) :
    Reliable (perform.log .empty calls) (perform.after .empty calls) := by
  have hagrees := agrees_empty.after calls
  refine {
    inOrder := hagrees.inOrder
    next := fun n hready => hagrees.next hready
    delivered := fun n later hnow hlater => ?_
    accepted_iff := hagrees.accepted_iff
    moves := fun n call e' hmade h => exists_moves hmade call h
    starts := fun e hn => ?_
    initialized := fun n e hn hcreated => isReady_of_init hn hcreated
    forward := fun n later e' hmade h => exists_rank_le later hmade h
    refused := fun n e action hn hready hneeds => perform_of_not_ready hn hready hneeds
    unregistered := fun n e hn => (hagrees.tallies n e hn).unregistered
    closeTwice := fun n => perform_close_twice _ n }
  · rw [ledger_append]
    exact hagrees.delivered later hnow hlater
  · rw [endpoint?_create_self] at hn
    obtain rfl := Option.some.inj hn
    rfl

example : perform.after empty [.create, .create, .on 0 (.setPeer 1), .on 1 (.setPeer 0)] =
    pair true := rfl

end NumaFabric.LoopbackNet
