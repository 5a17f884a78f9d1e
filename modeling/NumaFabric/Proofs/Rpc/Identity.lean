import NumaFabric.Proofs.Rpc.Sessions

namespace NumaFabric.Rpc

namespace Session

/-- Who a client with these messages is, if `id` was given to it at the start. -/
def identity (id : ClientId) (messages : List (List UInt8)) : ClientId :=
  ((messages.findSome? Request.decode?).bind Request.name?).getD id

theorem identity_append {id : ClientId} {messages : List (List UInt8)}
    (h : (messages.findSome? Request.decode?).isSome) (rest : List (List UInt8)) :
    identity id (messages ++ rest) = identity id messages := by
  obtain ⟨request, hrequest⟩ := Option.isSome_iff_exists.mp h
  rw [identity, List.findSome?_append, hrequest, Option.some_or, identity, hrequest]

theorem foldl_hear_of_greeted {s : Session} (h : s.greeted = true) (messages : List (List UInt8)) :
    messages.foldl hear s = s := by
  induction messages with
  | nil => rfl
  | cons message messages ih => rw [List.foldl_cons, hear_of_greeted h, ih]

theorem foldl_hear_new (id : ClientId) (messages : List (List UInt8)) :
    (messages.foldl hear (new id)).client = identity id messages ∧
      (messages.foldl hear (new id)).greeted = (messages.findSome? Request.decode?).isSome := by
  induction messages with
  | nil => exact ⟨rfl, rfl⟩
  | cons message messages ih =>
      rw [List.foldl_cons]
      cases h : Request.decode? message with
      | none =>
          have hsame : (new id).hear message = new id := by rw [hear, h]
          rw [hsame, identity, List.findSome?_cons, h]
          exact ih
      | some request =>
          -- from the first request on nothing changes
          have hgreeted : ((new id).hear message).greeted = true := greeted_hear_of_decode? h
          rw [foldl_hear_of_greeted hgreeted, identity, List.findSome?_cons, h]
          exact ⟨client_hear_of_decode? h rfl, hgreeted⟩

end Session

namespace Server

variable {lk dev : Type} {b : Backend lk dev} {ids : Nat → ClientId} {s : Server lk dev} {n : Nat}
  {c : Session}

def Action.message? (n : Nat) : Action → Option (List UInt8)
  | .receive m message => if m = n then some message else none
  | _ => none

def received (n : Nat) (actions : List Action) : List (List UInt8) :=
  actions.filterMap (Action.message? n)

def responses (b : Backend lk dev) (ids : Nat → ClientId) (n : Nat) (s : Server lk dev) :
    List Action → List Response
  | [] => []
  | a :: rest =>
    (if (a.message? n).isSome then (s.act b ids a).1.toList else []) ++
      responses b ids n (s.act b ids a).2 rest

theorem received_append (n : Nat) (actions rest : List Action) :
    received n (actions ++ rest) = received n actions ++ received n rest :=
  List.filterMap_append

theorem received_cons (n : Nat) (a : Action) (actions : List Action) :
    received n (a :: actions) = (a.message? n).toList ++ received n actions := by
  rw [received, List.filterMap_cons]
  cases a.message? n <;> rfl

theorem responses_append (actions rest : List Action) :
    responses b ids n s (actions ++ rest) =
      responses b ids n s actions ++ responses b ids n (s.after b ids actions) rest := by
  induction actions generalizing s with
  | nil => rfl
  | cons a actions ih =>
      rw [List.cons_append, responses, ih, responses, List.append_assoc]
      rfl

theorem session?_act (b : Backend lk dev) (ids : Nat → ClientId) (hn : s.session? n = some c)
    (hopened : n < s.opened) {a : Action} (hopen : a ≠ .disconnect n) :
    (s.act b ids a).2.session? n = some ((a.message? n).toList.foldl Session.hear c) := by
  cases a with
  | connect =>
      rw [act, session?_connect, if_neg (Nat.ne_of_lt hopened)]
      exact hn
  | disconnect m =>
      have hm : n ≠ m := by
        rintro rfl
        exact hopen rfl
      rw [act, session?_disconnect, if_neg hm]
      exact hn
  | receive m message =>
      rw [act, Action.message?]
      by_cases hm : m = n
      · subst hm
        rw [session?_receive hn, if_pos rfl, if_pos rfl]
        rfl
      · rw [if_neg hm]
        cases hd : s.session? m with
        | none =>
            rw [receive_of_session?_eq_none hd]
            exact hn
        | some d =>
            rw [session?_receive hd, if_neg (Ne.symm hm)]
            exact hn

theorem session?_after (hn : s.session? n = some c) (hopened : n < s.opened)
    {actions : List Action} (hopen : .disconnect n ∉ actions) :
    (s.after b ids actions).session? n = some ((received n actions).foldl Session.hear c) := by
  induction actions generalizing s c with
  | nil => exact hn
  | cons a actions ih =>
      rw [List.mem_cons, not_or] at hopen
      have hact := session?_act b ids hn hopened (Ne.symm hopen.1)
      rw [received_cons, List.foldl_append]
      exact ih hact (Nat.lt_of_lt_of_le hopened (opened_le_act a)) hopen.2

theorem length_responses (hn : s.session? n = some c) (hopened : n < s.opened)
    {actions : List Action} (hopen : .disconnect n ∉ actions) :
    (responses b ids n s actions).length = (received n actions).length := by
  induction actions generalizing s c with
  | nil => rfl
  | cons a actions ih =>
      rw [List.mem_cons, not_or] at hopen
      have hact := session?_act b ids hn hopened (Ne.symm hopen.1)
      rw [received_cons, responses, List.length_append, List.length_append,
        ih hact (Nat.lt_of_lt_of_le hopened (opened_le_act a)) hopen.2, Nat.add_right_cancel_iff]
      cases a with
      | connect | disconnect => rfl
      | receive m message =>
          rw [Action.message?]
          by_cases hm : m = n
          · subst hm
            rw [if_pos rfl, act, (receive_of_session? b hn message).1]
            rfl
          · rw [if_neg hm]
            rfl

/-- How a message is answered on connection `n` of `s`, whose client is `who` and whose earlier
messages are `heard`. -/
structure Answers (b : Backend lk dev) (s : Server lk dev) (n : Nat) (who : ClientId)
    (heard : List (List UInt8)) (message : List UInt8) (response : Response) : Prop where
  unreadable : Request.decode? message = none →
    (∃ words, response = .error "invalid_request" words) ∧ (s.receive b n message).2 = s
  welcome_iff : ∀ id, response = .welcome id ↔
    (∃ name, Request.decode? message = some (.hello name)) ∧
      (∀ m ∈ heard, Request.decode? m = none) ∧ id = who
  hello : ∀ name, Request.decode? message = some (.hello name) →
    (s.receive b n message).2.services = s.services
  lateHello : ∀ name, Request.decode? message = some (.hello name) →
    (∃ m ∈ heard, Request.decode? m ≠ none) →
    (∃ words, response = .error "invalid_request" words) ∧ (s.receive b n message).2 = s
  acquire : ∀ uuid, Request.decode? message = some (.acquireGpu uuid) →
    response = Session.respond (fun _ => .ack) (s.services.acquireGpu who uuid).1 ∧
      (s.receive b n message).2.services = (s.services.acquireGpu who uuid).2
  release : ∀ uuid, Request.decode? message = some (.releaseGpu uuid) →
    response = Session.respond (fun _ => .ack) (s.services.releaseGpu who uuid).1 ∧
      (s.receive b n message).2.services = (s.services.releaseGpu who uuid).2

theorem identity_of_decode? {id : ClientId} {heard : List (List UInt8)} {message : List UInt8}
    {request : Request} (h : Request.decode? message = some request) (more : List (List UInt8)) :
    Session.identity id (heard ++ message :: more) =
      ((heard.foldl Session.hear (.new id)).hear message).client := by
  have hsome : ((heard ++ [message]).findSome? Request.decode?).isSome := by
    rw [List.findSome?_append, Option.isSome_or, List.findSome?_cons, h]
    exact Bool.or_true _
  calc
    _ = Session.identity id ((heard ++ [message]) ++ more) := by rw [List.append_assoc]; rfl
    _ = Session.identity id (heard ++ [message]) := Session.identity_append hsome more
    _ = ((heard ++ [message]).foldl Session.hear (.new id)).client :=
      (Session.foldl_hear_new id _).1.symm
    _ = _ := by rw [List.foldl_append]; rfl

theorem answers_of_session? {id : ClientId} {heard : List (List UInt8)}
    (hn : s.session? n = some (heard.foldl Session.hear (.new id))) (message : List UInt8)
    (more : List (List UInt8)) :
    ∃ response, (s.receive b n message).1 = some response ∧
      Answers b s n (Session.identity id (heard ++ message :: more)) heard message response := by
  have hgreeted := (Session.foldl_hear_new id heard).2
  -- a message that can be read is among those that settle who the client is
  have hwho (request : Request) (h : Request.decode? message = some request) :
      Session.identity id (heard ++ message :: more) =
        ((heard.foldl Session.hear (.new id)).hear message).client := identity_of_decode? h more
  generalize heard.foldl Session.hear (.new id) = c at hn hgreeted hwho
  have hfirst : c.greeted = false ↔ ∀ m ∈ heard, Request.decode? m = none := by
    rw [hgreeted, Option.isSome_eq_false_iff, Option.isNone_iff_eq_none, List.findSome?_eq_none_iff]
  obtain ⟨hresponse, hservices⟩ := receive_of_session? b hn message
  refine ⟨_, hresponse, ?_⟩
  constructor
  case unreadable =>
    intro h
    have hanswer : c.answer b s.services message = _ := Session.answer_of_decode?_eq_none h
    exact ⟨⟨_, by rw [hanswer]; rfl⟩, receive_of_answer_eq hn (by rw [hanswer])⟩
  case welcome_iff =>
    intro id'
    rw [Session.answer_eq_welcome_iff, hfirst]
    refine and_congr_right ?_
    rintro ⟨name, h⟩
    rw [hwho _ h]
  case hello =>
    intro name h
    rw [hservices]
    cases hg : c.greeted with
    | false => rw [Session.answer_of_hello h hg]
    | true => rw [Session.answer_of_lateHello h hg]
  case lateHello =>
    rintro name h ⟨m, hm, hreadable⟩
    have hg : c.greeted = true := by
      by_contra hg
      exact hreadable (hfirst.mp (Bool.eq_false_iff.mpr hg) m hm)
    have hanswer : c.answer b s.services message = _ := Session.answer_of_lateHello h hg
    exact ⟨⟨_, by rw [hanswer]; rfl⟩, receive_of_answer_eq hn (by rw [hanswer])⟩
  case acquire =>
    intro uuid h
    rw [hwho _ h, Session.hear_of_ne_hello h nofun, hservices, Session.answer_of_decode?_eq_some h]
    exact ⟨rfl, rfl⟩
  case release =>
    intro uuid h
    rw [hwho _ h, Session.hear_of_ne_hello h nofun, hservices, Session.answer_of_decode?_eq_some h]
    exact ⟨rfl, rfl⟩

/-- While a connection is open each message on it gets one response, in order. The first request
settles who its client is; whatever is taken or given back is so for that client. -/
theorem answers_after_connect (b : Backend lk dev) (ids : Nat → ClientId) (start : Server lk dev)
    (actions : List Action) (hopen : .disconnect start.opened ∉ actions) :
    (responses b ids start.opened (start.connect ids start.opened) actions).length =
      (received start.opened actions).length ∧
    ∀ before message rest, actions = before ++ .receive start.opened message :: rest →
      ∃ response,
        (responses b ids start.opened (start.connect ids start.opened) actions)[
          (received start.opened before).length]? = some response ∧
        Answers b ((start.connect ids start.opened).after b ids before) start.opened
          (Session.identity (ids start.opened) (received start.opened actions))
          (received start.opened before) message response := by
  have hn : (start.connect ids start.opened).session? start.opened =
      some (.new (ids start.opened)) := by
    rw [session?_connect, if_pos rfl]
  have hopened : start.opened < (start.connect ids start.opened).opened := Nat.lt_succ_self _
  refine ⟨length_responses hn hopened hopen, ?_⟩
  rintro before message rest rfl
  have hbefore : Action.disconnect start.opened ∉ before :=
    fun hin => hopen (List.mem_append_left _ hin)
  have hsession : ((start.connect ids start.opened).after b ids before).session? start.opened =
      some ((received start.opened before).foldl Session.hear (.new (ids start.opened))) :=
    session?_after hn hopened hbefore
  have hlength : (responses b ids start.opened (start.connect ids start.opened) before).length =
      (received start.opened before).length := length_responses hn hopened hbefore
  have hreceived : received start.opened (before ++ .receive start.opened message :: rest) =
      received start.opened before ++ message :: received start.opened rest := by
    rw [received_append, received_cons, Action.message?, if_pos rfl]
    rfl
  obtain ⟨response, hresponse, hanswers⟩ :=
    answers_of_session? (b := b) hsession message (received start.opened rest)
  rw [← hreceived] at hanswers
  refine ⟨response, ?_, hanswers⟩
  rw [responses_append, List.getElem?_append_right (Nat.le_of_eq hlength), hlength, Nat.sub_self,
    responses, Action.message?, if_pos rfl, act, hresponse]
  rfl

def interrupted : List Action :=
  [.receive 0 [0], .receive 0 (Request.hello (some "alice")).encode, .connect,
    .receive 1 (Request.acquireGpu "GPU-0").encode,
    .receive 0 (Request.acquireGpu "GPU-0").encode,
    .receive 0 (Request.hello (some "bob")).encode,
    .receive 0 (Request.acquireGpu "GPU-1").encode]

theorem answers_after_connect_interrupted :
    .disconnect 0 ∉ interrupted ∧
      responses quietBackend hashIds 0 ((new pairOfServices).connect hashIds 0) interrupted =
        [.error "invalid_request" Session.malformed, .welcome "alice",
          .error "ownership_conflict" "GPU GPU-0 is owned by ##",
          .error "invalid_request" Session.lateHello, .ack] ∧
      Answers quietBackend
        (((new pairOfServices).connect hashIds 0).after quietBackend hashIds
          (interrupted.take 6)) 0 "alice" (received 0 (interrupted.take 6))
        (Request.acquireGpu "GPU-1").encode .ack := by
  have hopen : .disconnect 0 ∉ interrupted := by decide +kernel
  have hresponses : responses quietBackend hashIds 0 ((new pairOfServices).connect hashIds 0)
      interrupted = [.error "invalid_request" Session.malformed, .welcome "alice",
          .error "ownership_conflict" "GPU GPU-0 is owned by ##",
          .error "invalid_request" Session.lateHello, .ack] := by decide +kernel
  have hwho : Session.identity (hashIds 0) (received 0 interrupted) = "alice" := by decide +kernel
  have hplace : (received 0 (interrupted.take 6)).length = 4 := by decide +kernel
  refine ⟨hopen, hresponses, ?_⟩
  obtain ⟨-, hanswers⟩ :=
    answers_after_connect quietBackend hashIds (new pairOfServices) interrupted hopen
  rw [show (new pairOfServices).opened = 0 from rfl, hresponses, hwho] at hanswers
  obtain ⟨response, hresponse, hanswer⟩ := hanswers (interrupted.take 6) _ [] rfl
  rw [hplace] at hresponse
  obtain rfl := Option.some.inj hresponse
  exact hanswer

end Server

end NumaFabric.Rpc
