import Mathlib.Data.List.Induction
import NumaFabric.Proofs.Rpc.Sessions

namespace NumaFabric.Rpc.Server

variable {lk dev : Type} {b : Backend lk dev} {ids : Nat → ClientId} {s : Server lk dev}

def Action.announced? : Action → Option ClientId
  | .receive _ message => Rpc.announced? message
  | _ => none

/-- The ids of sessions are their own: no two are equal, and nobody announces one. -/
structure FreshIds (ids : Nat → ClientId) (actions : List Action) : Prop where
  injective : ids.Injective
  unannounced : ∀ k, ids k ∉ actions.filterMap Action.announced?

theorem FreshIds.of_append {actions rest : List Action} (h : FreshIds ids (actions ++ rest)) :
    FreshIds ids actions where
  injective := h.injective
  unannounced k hin := by
    apply h.unannounced k
    rw [List.filterMap_append]
    exact List.mem_append_left _ hin

/-- A hello that announced this name was welcomed by it. -/
def Welcomed (b : Backend lk dev) (ids : Nat → ClientId) (s : Server lk dev)
    (actions : List Action) (name : ClientId) : Prop :=
  ∃ before n message rest, actions = before ++ .receive n message :: rest ∧
    announced? message = some name ∧
    ((s.after b ids before).receive b n message).1 = some (.welcome name)

theorem Welcomed.append {actions : List Action} {name : ClientId}
    (h : Welcomed b ids s actions name) (rest : List Action) :
    Welcomed b ids s (actions ++ rest) name := by
  obtain ⟨before, n, message, after, rfl, hname, hwelcome⟩ := h
  exact ⟨before, n, message, after ++ rest, by simp, hname, hwelcome⟩

theorem Welcomed.ne_id {actions : List Action} {name : ClientId}
    (h : Welcomed b ids s actions name) (hids : FreshIds ids actions) (k : Nat) :
    name ≠ ids k := by
  rintro rfl
  obtain ⟨before, n, message, rest, rfl, hname, -⟩ := h
  apply hids.unannounced k
  exact List.mem_filterMap.mpr ⟨.receive n message, by simp, hname⟩

/-- Someone whom a GPU can be with: an open session without a name, or one of `names`. -/
def IsHolder (s : Server lk dev) (names : ClientId → Prop) (id : ClientId) : Prop :=
  (∃ n c, s.session? n = some c ∧ c.named = false ∧ c.client = id) ∨ names id

/-- A session is known by its own id or by one of `names`. It owns nothing before it has read a
request, so that a hello leaves nothing behind under the id that it replaces. -/
structure Known (ids : Nat → ClientId) (names : ClientId → Prop) (s : Server lk dev) (n : Nat)
    (c : Session) : Prop where
  lt_opened : n < s.opened
  unnamed : c.named = false → c.client = ids n
  named : c.named = true → c.greeted = true ∧ names c.client
  ungreeted : c.greeted = false → ∀ u, s.services.scheduler.owner? u ≠ some (ids n)

structure Accounted (ids : Nat → ClientId) (names : ClientId → Prop) (s : Server lk dev) :
    Prop where
  known : ∀ n c, s.session? n = some c → Known ids names s n c
  holder : ∀ u id, s.services.scheduler.owner? u = some id → s.IsHolder names id

section Step

variable {names : ClientId → Prop} {s' : Server lk dev} {n : Nat} {c : Session}
  {message : List UInt8}

theorem IsHolder.update {id : ClientId} (h : s.IsHolder names id)
    (hother : ∀ m, m ≠ n → s'.session? m = s.session? m)
    (hself : ∀ c, s.session? n = some c → c.named = false → c.client = id →
      s'.IsHolder names id) : s'.IsHolder names id := by
  rcases h with ⟨m, c, hc, hnamed, hclient⟩ | hname
  · by_cases hm : m = n
    · subst hm
      exact hself c hc hnamed hclient
    · exact .inl ⟨m, c, (hother m hm).trans hc, hnamed, hclient⟩
  · exact .inr hname

namespace Accounted

theorem mono (h : Accounted ids names s) {names' : ClientId → Prop}
    (hle : ∀ id, names id → names' id) : Accounted ids names' s where
  known n c hc := { h.known n c hc with
    named := fun hnamed => ((h.known n c hc).named hnamed).imp_right (hle c.client) }
  holder u id howner := (h.holder u id howner).imp_right (hle id)

theorem update (h : Accounted ids names s) (hopened : s.opened ≤ s'.opened)
    (hother : ∀ m, m ≠ n → s'.session? m = s.session? m)
    (hself : ∀ d, s'.session? n = some d → Known ids names s' n d)
    (howner : ∀ u id, s'.services.scheduler.owner? u = some id → s'.IsHolder names id ∧
      ∀ m, m ≠ n → id = ids m → s.services.scheduler.owner? u = some id) :
    Accounted ids names s' where
  known m d hd := by
    by_cases hm : m = n
    · subst hm
      exact hself d hd
    · have hknown := h.known m d ((hother m hm).symm.trans hd)
      refine { hknown with
        lt_opened := Nat.lt_of_lt_of_le hknown.lt_opened hopened
        ungreeted := fun hgreeted u hu => ?_ }
      exact hknown.ungreeted hgreeted u ((howner u _ hu).2 m hm rfl)
  holder u id hu := (howner u id hu).1

theorem exists_of_owner_id (h : Accounted ids names s) (hinj : ids.Injective)
    (hnames : ∀ k, ¬ names (ids k)) {u : String}
    (howner : s.services.scheduler.owner? u = some (ids n)) :
    ∃ c, s.session? n = some c ∧ c.named = false ∧ c.greeted = true := by
  rcases h.holder u _ howner with ⟨m, c, hc, hnamed, hclient⟩ | hname
  · have hknown := h.known m c hc
    rw [hknown.unnamed hnamed] at hclient
    obtain rfl := hinj hclient
    refine ⟨c, hc, hnamed, ?_⟩
    by_contra hgreeted
    exact hknown.ungreeted (Bool.eq_false_iff.mpr hgreeted) u howner
  · exact absurd hname (hnames n)

theorem connect (h : Accounted ids names s) (hinj : ids.Injective)
    (hnames : ∀ k, ¬ names (ids k)) : Accounted ids names (s.connect ids s.opened) := by
  have hother (m : Nat) (hm : m ≠ s.opened) :
      (s.connect ids s.opened).session? m = s.session? m := by
    rw [session?_connect, if_neg hm]
  -- nobody is known by the id of the new session
  have hunowned (u : String) : s.services.scheduler.owner? u ≠ some (ids s.opened) := by
    intro hu
    obtain ⟨c, hc, -⟩ := h.exists_of_owner_id hinj hnames hu
    exact Nat.lt_irrefl _ (h.known _ c hc).lt_opened
  refine h.update (Nat.le_succ s.opened) hother ?_ ?_
  · intro d hd
    rw [session?_connect, if_pos rfl] at hd
    obtain rfl := Option.some.inj hd
    exact ⟨Nat.lt_succ_self s.opened, fun _ => rfl, nofun, fun _ => hunowned⟩
  · intro u id hu
    refine ⟨(h.holder u id hu).update hother ?_, fun _ _ _ => hu⟩
    intro c hc
    exact absurd (h.known s.opened c hc).lt_opened (Nat.lt_irrefl s.opened)

theorem disconnect (h : Accounted ids names s) : Accounted ids names (s.disconnect n) := by
  cases hn : s.session? n with
  | none => rwa [disconnect_of_session?_eq_none hn]
  | some c =>
      have hother (m : Nat) (hm : m ≠ n) : (s.disconnect n).session? m = s.session? m := by
        rw [session?_disconnect, if_neg hm]
      refine h.update (Nat.le_of_eq opened_disconnect.symm) hother ?_ ?_
      · intro d hd
        rw [session?_disconnect, if_pos rfl] at hd
        cases hd
      · intro u id hu
        rw [services_disconnect hn, Session.owner?_finish] at hu
        obtain ⟨hu, hreleased⟩ := hu
        refine ⟨(h.holder u id hu).update hother ?_, fun _ _ _ => hu⟩
        intro d hd hnamed hclient
        obtain rfl := Option.some.inj (hn.symm.trans hd)
        -- the GPUs of the session that ends were released
        exact absurd hclient.symm (hreleased hnamed)

theorem receive_hello (h : Accounted ids names s) (hn : s.session? n = some c)
    (hfirst : c.greeted = false) {name : ClientId} (hname : names name)
    (hanswer : c.answer b s.services message = (.welcome name, ⟨name, true, true⟩, s.services)) :
    Accounted ids names (s.receive b n message).2 := by
  have hservices : (s.receive b n message).2.services = s.services := by
    rw [(receive_of_session? b hn message).2, hanswer]
  have hhear : c.hear message = ⟨name, true, true⟩ := by
    have hsession := c.session_answer b s.services message
    rw [hanswer] at hsession
    exact hsession.symm
  have hknown := h.known n c hn
  have hother (m : Nat) (hm : m ≠ n) :
      (s.receive b n message).2.session? m = s.session? m := by
    rw [session?_receive hn, if_neg hm]
  refine h.update (Nat.le_of_eq opened_receive.symm) hother ?_ ?_
  · intro d hd
    rw [session?_receive hn, if_pos rfl, hhear] at hd
    obtain rfl := Option.some.inj hd
    exact ⟨by rw [opened_receive]; exact hknown.lt_opened, nofun, fun _ => ⟨rfl, hname⟩, nofun⟩
  · intro u id hu
    rw [hservices] at hu
    refine ⟨(h.holder u id hu).update hother ?_, fun _ _ _ => hu⟩
    intro d hd hnamed hclient
    obtain rfl := Option.some.inj (hn.symm.trans hd)
    -- nothing was owned under the id that the name takes the place of
    rw [← hclient, hknown.unnamed hnamed] at hu
    exact absurd hu (hknown.ungreeted hfirst u)

theorem receive_other (h : Accounted ids names s) (hinj : ids.Injective)
    (hnames : ∀ k, ¬ names (ids k)) (hn : s.session? n = some c)
    (hhear : c.hear message = { c with greeted := true })
    (howner : ∀ u id, (s.receive b n message).2.services.scheduler.owner? u = some id →
      s.services.scheduler.owner? u = some id ∨ id = c.client) :
    Accounted ids names (s.receive b n message).2 := by
  have hknown := h.known n c hn
  have hsession : (s.receive b n message).2.session? n = some { c with greeted := true } := by
    rw [session?_receive hn, if_pos rfl, hhear]
  have hother (m : Nat) (hm : m ≠ n) :
      (s.receive b n message).2.session? m = s.session? m := by
    rw [session?_receive hn, if_neg hm]
  have hself : (s.receive b n message).2.IsHolder names c.client := by
    cases hnamed : c.named with
    | false => exact .inl ⟨n, _, hsession, hnamed, rfl⟩
    | true => exact .inr (hknown.named hnamed).2
  refine h.update (Nat.le_of_eq opened_receive.symm) hother ?_ ?_
  · intro d hd
    obtain rfl := Option.some.inj (hsession.symm.trans hd)
    exact ⟨by rw [opened_receive]; exact hknown.lt_opened, hknown.unnamed,
      fun hnamed => ⟨rfl, (hknown.named hnamed).2⟩, nofun⟩
  · intro u id hu
    rcases howner u id hu with hu | rfl
    · refine ⟨(h.holder u id hu).update hother ?_, fun _ _ _ => hu⟩
      intro d hd _ hclient
      obtain rfl := Option.some.inj (hn.symm.trans hd)
      exact hclient ▸ hself
    · refine ⟨hself, fun m hm hclient => ?_⟩
      -- the client of session `n` is not the id of another one
      cases hnamed : c.named with
      | false => exact absurd (hinj (hclient.symm.trans (hknown.unnamed hnamed))) hm
      | true => exact absurd (hclient ▸ (hknown.named hnamed).2) (hnames m)

end Accounted

end Step

theorem accounted_new {services : Service lk dev}
    (hfree : ∀ u, services.scheduler.owner? u = none) (names : ClientId → Prop) :
    Accounted ids names (new services) where
  known n c hc := by cases hc
  holder u id howner := by
    rw [show (new services).services.scheduler.owner? u = none from hfree u] at howner
    cases howner

theorem accounted_after {services : Service lk dev}
    (hfree : ∀ u, services.scheduler.owner? u = none) (actions : List Action)
    (hids : FreshIds ids actions) :
    Accounted ids (Welcomed b ids (new services) actions)
      ((new services).after b ids actions) := by
  induction actions using List.reverseRecOn with
  | nil => exact accounted_new hfree _
  | append_singleton actions a ih =>
      have hids' : FreshIds ids actions := hids.of_append
      -- who has been welcomed so far has been so after one more action
      have h := (ih hids').mono fun id hid => hid.append [a]
      have hnames (k : Nat) : ¬ Welcomed b ids (new services) (actions ++ [a]) (ids k) :=
        fun hwelcomed => hwelcomed.ne_id hids k rfl
      rw [after_concat]
      cases a with
      | connect => exact h.connect hids.injective hnames
      | disconnect n => exact h.disconnect
      | receive n message =>
          change Accounted ids _ (((new services).after b ids actions).receive b n message).2
          cases hn : ((new services).after b ids actions).session? n with
          | none => rwa [receive_of_session?_eq_none hn]
          | some c =>
              rcases c.answer_cases b ((new services).after b ids actions).services message with
                hsame | ⟨hfirst, name, hname, hanswer⟩ | ⟨hhear, howner⟩
              · rwa [receive_of_answer_eq hn hsame]
              · refine h.receive_hello hn hfirst ?_ hanswer
                refine ⟨actions, n, message, [], rfl, hname, ?_⟩
                rw [(receive_of_session? b hn message).1, hanswer]
              · rw [Session.session_answer] at hhear
                refine h.receive_other hids.injective hnames hn hhear ?_
                rwa [(receive_of_session? b hn message).2]

/-- While session `n` is open it has the property `p`; it has been opened before. -/
def Settled (p : Session → Prop) (s : Server lk dev) (n : Nat) : Prop :=
  n < s.opened ∧ ∀ c, s.session? n = some c → p c

section Settled

variable {p : Session → Prop} {n : Nat}

theorem Settled.act (hp : ∀ c, p c → ∀ message, p (c.hear message)) (h : s.Settled p n)
    (a : Action) : (s.act b ids a).2.Settled p n := by
  refine ⟨Nat.lt_of_lt_of_le h.1 (opened_le_act a), fun d hd => ?_⟩
  cases a with
  | connect =>
      rw [Server.act, session?_connect, if_neg (Nat.ne_of_lt h.1)] at hd
      exact h.2 d hd
  | disconnect m =>
      rw [Server.act, session?_disconnect] at hd
      split at hd
      · cases hd
      · exact h.2 d hd
  | receive m message =>
      rw [Server.act] at hd
      cases hm : s.session? m with
      | none =>
          rw [receive_of_session?_eq_none hm] at hd
          exact h.2 d hd
      | some c =>
          rw [session?_receive hm] at hd
          split at hd
          · rename_i hnm
            obtain rfl := Option.some.inj hd
            exact hp c (h.2 c (hnm ▸ hm)) message
          · exact h.2 d hd

theorem Settled.after (hp : ∀ c, p c → ∀ message, p (c.hear message)) (h : s.Settled p n)
    (actions : List Action) : (s.after b ids actions).Settled p n := by
  induction actions generalizing s with
  | nil => exact h
  | cons a actions ih => exact ih (h.act hp a)

end Settled

theorem settled_of_welcome {n : Nat} {c : Session} (hn : s.session? n = some c)
    (hopened : n < s.opened) {message : List UInt8} {name : ClientId}
    (hwelcome : (s.receive b n message).1 = some (.welcome name)) (hne : name ≠ c.client) :
    (s.receive b n message).2.Settled (·.named = true) n := by
  refine ⟨by rwa [opened_receive], fun d hd => ?_⟩
  rw [session?_receive hn, if_pos rfl] at hd
  obtain rfl := Option.some.inj hd
  obtain ⟨-, rfl⟩ := first_of_welcome hn hwelcome
  rcases c.hear_cases message with ⟨hsame, -⟩ | hnamed
  · exact absurd hsame hne
  · exact hnamed

theorem Known.client_of_not_greeted {names : ClientId → Prop} {n : Nat} {c : Session}
    (h : Known ids names s n c) (hfirst : c.greeted = false) : c.client = ids n := by
  apply h.unnamed
  cases hnamed : c.named with
  | false => rfl
  | true => rw [(h.named hnamed).1] at hfirst; cases hfirst

namespace Accounted

variable {names : ClientId → Prop} {n : Nat} {u : String}

theorem settled_of_owner_id (h : Accounted ids names s) (hinj : ids.Injective)
    (hnames : ∀ k, ¬ names (ids k)) (howner : s.services.scheduler.owner? u = some (ids n)) :
    s.Settled (·.greeted = true) n := by
  obtain ⟨c, hc, -, hgreeted⟩ := h.exists_of_owner_id hinj hnames howner
  refine ⟨(h.known n c hc).lt_opened, fun d hd => ?_⟩
  obtain rfl := Option.some.inj (hc.symm.trans hd)
  exact hgreeted

theorem owner?_ne_of_settled (h : Accounted ids names s) (hinj : ids.Injective)
    (hnames : ∀ k, ¬ names (ids k)) (hsettled : s.Settled (·.named = true) n) (u : String) :
    s.services.scheduler.owner? u ≠ some (ids n) := by
  intro howner
  obtain ⟨c, hc, hnamed, -⟩ := h.exists_of_owner_id hinj hnames howner
  rw [hsettled.2 c hc] at hnamed
  cases hnamed

end Accounted

/-- Every GPU that is owned is with an open session without a name or with a name that was welcomed,
and at no time is one with an id that a name takes the place of. -/
theorem isHolder_after (b : Backend lk dev) (services : Service lk dev)
    (hfree : ∀ u, services.scheduler.owner? u = none) (actions : List Action)
    (hids : FreshIds ids actions) :
    (∀ u id, ((new services).after b ids actions).services.scheduler.owner? u = some id →
      ((new services).after b ids actions).IsHolder (Welcomed b ids (new services) actions) id) ∧
    ∀ before n message rest c name, actions = before ++ .receive n message :: rest →
      ((new services).after b ids before).session? n = some c →
      (((new services).after b ids before).receive b n message).1 = some (.welcome name) →
      name ≠ c.client → ∀ earlier later, actions = earlier ++ later →
      ∀ u, ((new services).after b ids earlier).services.scheduler.owner? u ≠ some c.client := by
  refine ⟨(accounted_after hfree actions hids).holder, ?_⟩
  rintro before n message rest c name rfl hn hwelcome hne earlier later hsplit u howner
  have hknown := (accounted_after (b := b) hfree before hids.of_append).known n c hn
  have hfirst := (first_of_welcome hn hwelcome).1
  rw [hknown.client_of_not_greeted hfirst] at howner
  rw [hsplit] at hids
  have h : Accounted ids (Welcomed b ids (new services) earlier)
      ((new services).after b ids earlier) := accounted_after hfree earlier hids.of_append
  have hnames (k : Nat) : ¬ Welcomed b ids (new services) earlier (ids k) :=
    fun hname => hname.ne_id hids.of_append k rfl
  have hgreeted := h.settled_of_owner_id hids.injective hnames howner
  -- before the welcome the owner would have read a request, after it the owner would have a name
  rcases List.append_eq_append_iff.mp hsplit with ⟨between, rfl, hrest⟩ | ⟨between, rfl, -⟩
  · cases between with
    | nil =>
        rw [List.append_nil] at hgreeted
        rw [hgreeted.2 c hn] at hfirst
        cases hfirst
    | cons a between =>
        obtain ⟨rfl, -⟩ := List.cons.inj hrest
        have hnamed : ((new services).after b ids
            (before ++ .receive n message :: between)).Settled (·.named = true) n := by
          rw [after_append]
          exact (settled_of_welcome hn hknown.lt_opened hwelcome hne).after
            (fun _ => Session.named_hear) between
        exact h.owner?_ne_of_settled hids.injective hnames hnamed u howner
  · rw [after_append] at hn
    rw [(hgreeted.after (fun _ => Session.greeted_hear) between).2 c hn] at hfirst
    cases hfirst

def twoClients : List Action :=
  [.connect, .receive 0 (Request.hello (some "alice")).encode,
    .receive 0 (Request.acquireGpu "GPU-0").encode, .connect,
    .receive 1 (Request.acquireGpu "GPU-1").encode,
    .receive 1 (Request.hello (some "bob")).encode, .disconnect 0]

theorem freshIds_twoClients : FreshIds hashIds twoClients where
  injective := hashIds_injective
  unannounced k hin := by
    have hnames : twoClients.filterMap Action.announced? = ["alice", "bob"] := by decide +kernel
    rw [hnames, List.mem_cons, List.mem_singleton] at hin
    have hhead : (hashIds k).toList.head? = some '#' := by simp [hashIds]
    rcases hin with h | h <;> rw [h] at hhead <;> cases hhead

theorem isHolder_after_twoClients :
    (∀ u, pairOfServices.scheduler.owner? u = none) ∧ FreshIds hashIds twoClients ∧
      (["GPU-0", "GPU-1"].map ((new pairOfServices).after quietBackend hashIds
        twoClients).services.scheduler.owner?) = [some "alice", some (hashIds 1)] ∧
      ((new pairOfServices).after quietBackend hashIds twoClients).IsHolder
        (Welcomed quietBackend hashIds (new pairOfServices) twoClients) (hashIds 1) ∧
      ∀ u, ((new pairOfServices).after quietBackend hashIds twoClients).services.scheduler.owner? u
        ≠ some (hashIds 0) := by
  have hfree := Scheduler.owner?_ofGpus Scheduler.valid_pairOfGpus true
  have howners : (["GPU-0", "GPU-1"].map ((new pairOfServices).after quietBackend hashIds
      twoClients).services.scheduler.owner?) = [some "alice", some (hashIds 1)] := by
    decide +kernel
  have hwelcome : (((new pairOfServices).after quietBackend hashIds [.connect]).receive quietBackend
      0 (Request.hello (some "alice")).encode).1 = some (.welcome "alice") := by decide +kernel
  obtain ⟨hholder, hreplaced⟩ := isHolder_after quietBackend pairOfServices hfree twoClients
    freshIds_twoClients
  refine ⟨hfree, freshIds_twoClients, howners, ?_, ?_⟩
  · exact hholder "GPU-1" _ (List.cons.inj (List.cons.inj howners).2).1
  · exact hreplaced [.connect] 0 _ _ (.new (hashIds 0)) "alice" rfl rfl hwelcome (by decide)
      twoClients [] (List.append_nil _).symm

end NumaFabric.Rpc.Server
