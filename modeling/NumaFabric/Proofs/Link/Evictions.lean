import NumaFabric.Proofs.Link.Deliveries
/-!
Sends to peers side by side, each in its three steps, while transports are closed from outside.
Finding or making a transport is one step, since one call at a time makes them. Main statement: a
cached transport is dropped when a send to its peer broke, and then only; the send drops its own
transport as long as no other one to that peer broke since it started, and a newer one else.
-/

namespace NumaFabric

/-- How far a send is: it has its transport, that has answered, or nothing is left to do. -/
inductive Stage where
  | holding (n : Nat)
  | answered (n : Nat) (result : Except TransferError Unit)
  | returned

def Stage.transport? : Stage → Option Nat
  | holding n => some n
  | answered n _ => some n
  | returned => none

structure SendCall where
  peer : IpAddress
  data : List UInt8
  stage : Stage

/-- A registry, its surroundings, and all sends that were ever started, each known by its place. -/
structure Traffic (σ : Type) where
  conns : Connections
  around : σ
  sends : List SendCall

namespace Traffic

variable {σ : Type}

def empty (around : σ) : Traffic σ := ⟨.empty, around, []⟩

inductive Event where
  | start (peer : IpAddress) (data : List UInt8)
  | transmit (i : Nat)
  | finish (i : Nat)
  | close (n : Nat)

inductive Reply where
  | started (i : Nat) (transport : Except TransferError Nat)
  | transmitted
  | returned (peer : IpAddress) (result : Except TransferError Unit)
  | closed
  | idle

def perform (w : Wiring σ) : Machine (Traffic σ) Event Reply
  | s, .start peer data =>
    let (transport, conns) := s.conns.acquire w peer
    let stage := match transport with
      | .ok n => .holding n
      | .error _ => .returned
    (.started s.sends.length transport, { s with conns, sends := s.sends ++ [⟨peer, data, stage⟩] })
  | s, .transmit i =>
    match s.sends[i]? with
    | some ⟨peer, data, .holding n⟩ =>
      let (result, around) := s.conns.transmit w n data s.around
      (.transmitted, { s with around, sends := s.sends.set i ⟨peer, data, .answered n result⟩ })
    | _ => (.idle, s)
  | s, .finish i =>
    match s.sends[i]? with
    | some ⟨peer, data, .answered _ result⟩ =>
      (.returned peer result, { s with
        conns := s.conns.afterSend peer result
        sends := s.sends.set i ⟨peer, data, .returned⟩ })
    | _ => (.idle, s)
  | s, .close n => (.closed, { s with conns := s.conns.closeTransport n })

/-- The `i`-th send was started, and got that transport. -/
def Starts (i : Nat) (peer : IpAddress) (n : Nat) (e : Event × Reply) : Prop :=
  ∃ data, e = (.start peer data, .started i (.ok n))

/-- A send to the peer found its transport broken. -/
def Breaks (peer : IpAddress) (e : Event × Reply) : Prop :=
  e.2 = .returned peer (.error .closed) ∨ e.2 = .returned peer (.error .notInitialized)

theorem after_start_transmit_finish (w : Wiring σ) (s : Traffic σ) (peer : IpAddress)
    (data : List UInt8) :
    let i := s.sends.length
    let s' := (perform w).after s [.start peer data, .transmit i, .finish i]
    (s'.conns, s'.around) = (s.conns.sendTo w peer data s.around).2 := by
  cases hacquire : s.conns.acquire w peer with
  | mk transport conns =>
      cases transport with
      | error e => simp [Machine.after, perform, Connections.sendTo, hacquire]
      | ok n => simp [Machine.after, perform, Connections.sendTo, hacquire]

/-- The `i`-th send is for the peer and has that transport, and has not returned yet. -/
def Held (s : Traffic σ) (i : Nat) (peer : IpAddress) (n : Nat) : Prop :=
  ∃ x, s.sends[i]? = some x ∧ x.peer = peer ∧ x.stage.transport? = some n

inductive EntryMoves (c c' : Connections) (peer : IpAddress) (e : Event × Reply) : Prop
  | kept (hwhole : ¬ Breaks peer e) (h : c'.lookup? peer = c.lookup? peer)
  | dropped (hbroke : Breaks peer e) (h : c'.lookup? peer = none)
  | made (hwhole : ¬ Breaks peer e) (hnone : c.lookup? peer = none)
      (h : c'.lookup? peer = some c.made.length) (hlt : c.made.length < c'.made.length)

structure Moves (s : Traffic σ) (e : Event × Reply) (s' : Traffic σ) : Prop where
  entries : ∀ peer, EntryMoves s.conns s'.conns peer e
  made : s.conns.made.length ≤ s'.conns.made.length
  starts : ∀ i peer n, Starts i peer n e → i = s.sends.length
  held : ∀ i peer n, s'.Held i peer n → s.Held i peer n ∨
    (i = s.sends.length ∧ Starts i peer n e ∧ s'.conns.lookup? peer = some n)

section Moves

variable {w : Wiring σ} {s : Traffic σ} {i : Nat} {x : SendCall} {stage : Stage}

theorem Held.of_set {j n : Nat} {peer : IpAddress} {conns : Connections} {around : σ}
    (hx : s.sends[i]? = some x)
    (hstage : ∀ n, stage.transport? = some n → x.stage.transport? = some n)
    (h : Held ⟨conns, around, s.sends.set i { x with stage }⟩ j peer n) : s.Held j peer n := by
  obtain ⟨y, hy, hpeer, hn⟩ := h
  by_cases hij : i = j
  · subst hij
    have hlt := (List.getElem?_eq_some_iff.mp hx).1
    obtain rfl : { x with stage } = y :=
      Option.some.inj ((List.getElem?_set_self hlt).symm.trans hy)
    exact ⟨x, hx, hpeer, hstage n hn⟩
  · exact ⟨y, (List.getElem?_set_ne hij).symm.trans hy, hpeer, hn⟩

theorem Held.of_append {j n : Nat} {peer : IpAddress} {conns : Connections} {around : σ}
    (h : Held ⟨conns, around, s.sends ++ [x]⟩ j peer n) :
    s.Held j peer n ∨ (j = s.sends.length ∧ x.peer = peer ∧ x.stage.transport? = some n) := by
  obtain ⟨y, hy, hpeer, hn⟩ := h
  rcases getElem?_concat_eq_some hy with hy | ⟨hj, rfl⟩
  · exact .inl ⟨y, hy, hpeer, hn⟩
  · exact .inr ⟨hj, hpeer, hn⟩

theorem moves_set {event : Event} {reply : Reply} {around : σ} (hx : s.sends[i]? = some x)
    (hstage : ∀ n, stage.transport? = some n → x.stage.transport? = some n)
    (hreply : ∀ j transport, reply ≠ .started j transport)
    (conns : Connections) (hmade : conns.made = s.conns.made)
    (hentries : ∀ peer, EntryMoves s.conns conns peer (event, reply)) :
    Moves s (event, reply) ⟨conns, around, s.sends.set i { x with stage }⟩ where
  entries := hentries
  made := Nat.le_of_eq (congrArg List.length hmade.symm)
  starts := by
    rintro j peer n ⟨data, he⟩
    exact absurd (congrArg Prod.snd he) (hreply j _)
  held := fun j peer n h => .inl (h.of_set hx hstage)

theorem moves_append {peer : IpAddress} {data : List UInt8} {transport : Except TransferError Nat}
    (hstage : ∀ n, stage.transport? = some n → transport = .ok n)
    {conns : Connections} (hmade : s.conns.made.length ≤ conns.made.length)
    (hentry : ∀ n, transport = .ok n → conns.lookup? peer = some n)
    (hentries : ∀ q, EntryMoves s.conns conns q
      (.start peer data, .started s.sends.length transport)) :
    Moves s (.start peer data, .started s.sends.length transport)
      ⟨conns, s.around, s.sends ++ [⟨peer, data, stage⟩]⟩ where
  entries := hentries
  made := hmade
  starts := by
    rintro i q n ⟨data', he⟩
    cases he
    rfl
  held := by
    intro i q n h
    obtain hold | ⟨hi, rfl, hn⟩ := h.of_append
    · exact .inl hold
    · obtain rfl := hstage n hn
      exact .inr ⟨hi, ⟨data, by rw [hi]⟩, hentry n rfl⟩

theorem moves_start (w : Wiring σ) (s : Traffic σ) (peer : IpAddress) (data : List UInt8) :
    Moves s (.start peer data, (perform w s (.start peer data)).1)
      (perform w s (.start peer data)).2 := by
  have hwhole (q : IpAddress) (transport : Except TransferError Nat) :
      ¬ Breaks q (.start peer data, .started s.sends.length transport) := by
    simp [Breaks]
  cases hlookup : s.conns.lookup? peer with
  | some n =>
      simp only [perform, Connections.acquire_of_cached hlookup]
      refine moves_append ?_ (Nat.le_refl _) ?_ (fun q => .kept (hwhole q _) rfl)
      · rintro m hm
        rw [Option.some.inj hm]
      · rintro m hm
        rw [hlookup, Except.ok.inj hm]
  | none =>
      cases hsetUp : Connections.setUp w s.conns.made.length peer with
      | error e =>
          obtain ⟨t, -, hconnect⟩ := Connections.exists_connect_eq_of_setUp_error hsetUp
          simp only [perform, Connections.acquire_of_missing hlookup, hconnect]
          refine moves_append ?_ (by simp) ?_ (fun q => .kept (hwhole q _) rfl)
          · rintro m hm
            cases hm
          · rintro m hm
            cases hm
      | ok t =>
          simp only [perform, Connections.acquire_of_missing hlookup,
            Connections.connect_of_setUp_ok hsetUp]
          refine moves_append ?_ (by simp) ?_ ?_
          · rintro m hm
            rw [Option.some.inj hm]
          · rintro m hm
            cases hm
            rw [Connections.lookup?_append_of_missing hlookup, if_pos rfl]
          · intro q
            have hentry := Connections.lookup?_append_of_missing hlookup t q
            by_cases hq : q = peer
            · rw [if_pos hq] at hentry
              subst hq
              exact .made (hwhole q _) hlookup hentry (by simp)
            · rw [if_neg hq] at hentry
              exact .kept (hwhole q _) hentry

theorem moves_idle (event : Event) : Moves s (event, .idle) s where
  entries := fun _ => .kept (by simp [Breaks]) rfl
  made := Nat.le_refl _
  starts := by
    rintro i peer n ⟨data, he⟩
    cases he
  held := fun _ _ _ h => .inl h

theorem moves_transmit (w : Wiring σ) (s : Traffic σ) (i : Nat) :
    Moves s (.transmit i, (perform w s (.transmit i)).1) (perform w s (.transmit i)).2 := by
  simp only [perform]
  split
  next peer data n hx =>
    refine moves_set hx ?_ ?_ s.conns rfl (fun q => .kept ?_ rfl)
    · exact fun m hm => hm
    · simp
    · simp [Breaks]
  next => exact moves_idle _

theorem breaks_returned_iff {event : Event} {peer q : IpAddress}
    {result : Except TransferError Unit} :
    Breaks q (event, .returned peer result) ↔
      q = peer ∧ (result = .error .closed ∨ result = .error .notInitialized) := by
  simp only [Breaks, Reply.returned.injEq]
  constructor
  · rintro (⟨rfl, hresult⟩ | ⟨rfl, hresult⟩)
    · exact ⟨rfl, .inl hresult⟩
    · exact ⟨rfl, .inr hresult⟩
  · rintro ⟨rfl, hresult⟩
    exact hresult.imp (⟨rfl, ·⟩) (⟨rfl, ·⟩)

theorem entryMoves_afterSend (c : Connections) (event : Event) (peer q : IpAddress)
    (result : Except TransferError Unit) :
    EntryMoves c (c.afterSend peer result) q (event, .returned peer result) := by
  by_cases hbroke : result = .error .closed ∨ result = .error .notInitialized
  · have hevict : c.afterSend peer result = c.evict peer := by
      obtain rfl | rfl := hbroke <;> rfl
    rw [hevict]
    by_cases hq : q = peer
    · refine .dropped (breaks_returned_iff.mpr ⟨hq, hbroke⟩) ?_
      rw [Connections.lookup?_evict, if_pos hq]
    · refine .kept (fun h => hq (breaks_returned_iff.mp h).1) ?_
      rw [Connections.lookup?_evict, if_neg hq]
  · refine .kept (fun h => hbroke (breaks_returned_iff.mp h).2) ?_
    obtain hsame | ⟨-, hbroke'⟩ := c.afterSend_cases peer result
    · rw [hsame]
    · exact absurd hbroke' hbroke

theorem moves_finish (w : Wiring σ) (s : Traffic σ) (i : Nat) :
    Moves s (.finish i, (perform w s (.finish i)).1) (perform w s (.finish i)).2 := by
  simp only [perform]
  split
  next peer data n result hx =>
    refine moves_set hx ?_ ?_ (s.conns.afterSend peer result) (s.conns.made_afterSend ..)
      (fun q => entryMoves_afterSend ..)
    · intro m hm
      cases hm
    · simp
  next => exact moves_idle _

theorem moves_close (w : Wiring σ) (s : Traffic σ) (n : Nat) :
    Moves s (.close n, (perform w s (.close n)).1) (perform w s (.close n)).2 where
  entries := by
    intro peer
    refine .kept (by simp [perform, Breaks]) ?_
    exact congrArg (List.lookup peer) (s.conns.closeTransport_eq n).1
  made := Nat.le_of_eq (s.conns.closeTransport_eq n).2.1.symm
  starts := by
    rintro i peer m ⟨data, he⟩
    cases he
  held := fun _ _ _ h => .inl h

theorem moves_perform (w : Wiring σ) (s : Traffic σ) (event : Event) :
    Moves s (event, (perform w s event).1) (perform w s event).2 := by
  cases event with
  | start peer data => exact moves_start w s peer data
  | transmit i => exact moves_transmit w s i
  | finish i => exact moves_finish w s i
  | close n => exact moves_close w s n

end Moves

/-- What the entries say about the sends that have not returned yet. -/
structure Tracks (log : List (Event × Reply)) (s : Traffic σ) : Prop where
  cached : ∀ peer n, s.conns.lookup? peer = some n → n < s.conns.made.length
  held : ∀ i peer n, s.Held i peer n → n < s.conns.made.length
  newer : ∀ i peer n m, s.Held i peer n → s.conns.lookup? peer = some m → n ≤ m
  own : ∀ i peer n, s.Held i peer n →
    (s.conns.lookup? peer = some n ↔ Stands (Starts i peer n) (Breaks peer) log)

theorem tracks_empty (around : σ) : Tracks [] (empty around) := by
  have hnone (i : Nat) (peer : IpAddress) (n : Nat) : ¬ (empty around).Held i peer n := by
    rintro ⟨x, hx, -⟩
    cases hx
  constructor
  case cached => exact fun peer n h => nomatch h
  case held => exact fun i peer n h => absurd h (hnone i peer n)
  case newer => exact fun i peer n m h => absurd h (hnone i peer n)
  case own => exact fun i peer n h => absurd h (hnone i peer n)

theorem Tracks.step {log : List (Event × Reply)} {s s' : Traffic σ} {e : Event × Reply}
    (h : Tracks log s) (hmoves : Moves s e s') : Tracks (log ++ [e]) s' := by
  have hcached (peer : IpAddress) (n : Nat) (hlookup : s'.conns.lookup? peer = some n) :
      n < s'.conns.made.length := by
    cases hmoves.entries peer with
    | kept _ hsame => exact Nat.lt_of_lt_of_le (h.cached peer n (hsame ▸ hlookup)) hmoves.made
    | dropped _ hnone => simp [hnone] at hlookup
    | made _ _ hnew hlt =>
        obtain rfl := Option.some.inj (hnew.symm.trans hlookup)
        exact hlt
  constructor
  case cached => exact hcached
  case held =>
    intro i peer n hheld
    obtain hold | ⟨-, -, hlookup⟩ := hmoves.held i peer n hheld
    · exact Nat.lt_of_lt_of_le (h.held i peer n hold) hmoves.made
    · exact hcached peer n hlookup
  case newer =>
    intro i peer n m hheld hlookup
    obtain hold | ⟨-, -, hgot⟩ := hmoves.held i peer n hheld
    · cases hmoves.entries peer with
      | kept _ hsame => exact h.newer i peer n m hold (hsame ▸ hlookup)
      | dropped _ hnone => simp [hnone] at hlookup
      | made _ _ hnew _ =>
          obtain rfl := Option.some.inj (hnew.symm.trans hlookup)
          exact Nat.le_of_lt (h.held i peer n hold)
    · exact Nat.le_of_eq (Option.some.inj (hgot.symm.trans hlookup))
  case own =>
    -- A send that starts now has what is cached now; the start of any other is further back.
    intro i peer n hheld
    rw [stands_concat_iff]
    obtain hold | ⟨-, hstarts, hgot⟩ := hmoves.held i peer n hheld
    · have hlt : i < s.sends.length := by
        obtain ⟨x, hx, -⟩ := hold
        exact (List.getElem?_eq_some_iff.mp hx).1
      have hnot : ¬ Starts i peer n e := by
        intro hstarts
        exact Nat.ne_of_lt hlt (hmoves.starts i peer n hstarts)
      rw [← h.own i peer n hold]
      cases hmoves.entries peer with
      | kept hwhole hsame => simp [hsame, hnot, hwhole]
      | dropped hbroke hnone => simp [hnone, hnot, hbroke]
      | made _ hnone hnew _ =>
          have hne : s.conns.made.length ≠ n := Nat.ne_of_gt (h.held i peer n hold)
          simp [hnone, hnew, hnot, hne]
    · simp [hgot, hstarts]

theorem tracks_after (w : Wiring σ) (around : σ) (events : List Event) :
    Tracks ((perform w).log (empty around) events) ((perform w).after (empty around) events) :=
  (perform w).invariant (tracks_empty around)
    (fun _ s event h => h.step (moves_perform w s event)) events

def FailedOn (s : Traffic σ) (i : Nat) (peer : IpAddress) (n : Nat) : Prop :=
  ∃ data result, s.sends[i]? = some ⟨peer, data, .answered n result⟩ ∧
    (result = .error .closed ∨ result = .error .notInitialized)

theorem FailedOn.held {s : Traffic σ} {i n : Nat} {peer : IpAddress} (h : s.FailedOn i peer n) :
    s.Held i peer n := by
  obtain ⟨data, result, hx, -⟩ := h
  exact ⟨_, hx, rfl, rfl⟩

theorem breaks_perform_iff (w : Wiring σ) (s : Traffic σ) (event : Event) (peer : IpAddress) :
    Breaks peer (event, (perform w s event).1) ↔ ∃ i n, event = .finish i ∧ s.FailedOn i peer n := by
  constructor
  · intro hbreaks
    cases event with
    | start q data => simp [Breaks, perform] at hbreaks
    | close n => simp [Breaks, perform] at hbreaks
    | transmit i =>
        simp only [perform] at hbreaks
        split at hbreaks <;> simp [Breaks] at hbreaks
    | finish i =>
        simp only [perform] at hbreaks
        split at hbreaks
        next q data n result hx =>
          obtain ⟨rfl, hresult⟩ := breaks_returned_iff.mp hbreaks
          exact ⟨i, n, rfl, data, result, hx, hresult⟩
        next => simp [Breaks] at hbreaks
  · rintro ⟨i, n, rfl, data, result, hx, hresult⟩
    simp only [perform, hx]
    exact breaks_returned_iff.mpr ⟨rfl, hresult⟩

/-- What becomes of the entries after the events of `log`, whatever comes next. -/
structure EvictsByPeer (w : Wiring σ) (log : List (Event × Reply)) (s : Traffic σ) : Prop where
  /-- An entry is left alone, or it goes because a send to its peer failed. -/
  entry : ∀ event peer m, s.conns.lookup? peer = some m →
    let s' := (perform w s event).2
    (s'.conns.lookup? peer = some m ∧ ¬ ∃ i n, event = .finish i ∧ s.FailedOn i peer n) ∨
    (s'.conns.lookup? peer = none ∧ ∃ i n, event = .finish i ∧ s.FailedOn i peer n)
  own : ∀ i peer n, s.Held i peer n →
    (s.conns.lookup? peer = some n ↔ Stands (Starts i peer n) (Breaks peer) log)
  /-- What a failed send drops is its own, or newer, and then another send broke meanwhile. -/
  late : ∀ i peer n m, s.FailedOn i peer n → s.conns.lookup? peer = some m →
    n = m ∨ (n < m ∧ ¬ Stands (Starts i peer n) (Breaks peer) log)

theorem evictsByPeer_after (w : Wiring σ) (around : σ) (events : List Event) :
    EvictsByPeer w ((perform w).log (empty around) events)
      ((perform w).after (empty around) events) := by
  have htracks := tracks_after w around events
  constructor
  case entry =>
    intro event peer m hlookup
    have hmoves := moves_perform w ((perform w).after (empty around) events) event
    have hbreaks := breaks_perform_iff w ((perform w).after (empty around) events) event peer
    cases hmoves.entries peer with
    | kept hwhole hsame => exact .inl ⟨hsame.trans hlookup, fun h => hwhole (hbreaks.mpr h)⟩
    | dropped hbroke hnone => exact .inr ⟨hnone, hbreaks.mp hbroke⟩
    | made _ hnone _ _ => simp [hnone] at hlookup
  case own => exact htracks.own
  case late =>
    intro i peer n m hfailed hlookup
    rcases Nat.eq_or_lt_of_le (htracks.newer i peer n m hfailed.held hlookup) with heq | hlt
    · exact .inl heq
    · refine .inr ⟨hlt, ?_⟩
      rw [← htracks.own i peer n hfailed.held, hlookup]
      exact fun h => Nat.ne_of_gt hlt (Option.some.inj h)

/-- A cached transport in working order may be dropped for one that broke long before: two sends get
the first transport, which is closed; the one that returns first makes room for a new transport, and
the other drops that. -/
theorem not_forall_evicts_own :
    ¬ ∀ (makes : List TransportMake) (events : List Event) (event : Event) (peer : IpAddress)
        (m : Nat) (t : Transport),
      let w := Hub.wiring makes
      let s := (perform w).after (empty Hub.empty) events
      s.conns.lookup? peer = some m → s.conns.transport? m = some t → t.answer = .ok () →
      (perform w s event).2.conns.lookup? peer = some m ∨
        ∃ i, event = .finish i ∧ s.FailedOn i peer m := by
  intro h
  let peer : IpAddress := .v4 ⟨10, 0, 0, 2⟩
  let events : List Event := [.start peer [1], .start peer [2], .close 0, .transmit 0, .finish 0,
    .start peer [3], .transmit 1]
  have hdropped : (perform (Hub.wiring []) ((perform (Hub.wiring [])).after (empty Hub.empty) events)
      (.finish 1)).2.conns.lookup? peer ≠ some 1 := by decide
  have hown : ((perform (Hub.wiring [])).after (empty Hub.empty) events).sends[1]?.bind
      (·.stage.transport?) = some 0 := by decide
  obtain hkept | ⟨i, hi, hfailed⟩ := h [] events (.finish 1) peer 1 ⟨.ready, true, .of peer 5555⟩
    (by decide) (by decide) (by decide)
  · exact hdropped hkept
  · obtain rfl := Event.finish.inj hi
    obtain ⟨x, hx, -, hn⟩ := hfailed.held
    rw [hx, Option.bind_some, hn] at hown
    exact absurd hown (by decide)

end Traffic

end NumaFabric
