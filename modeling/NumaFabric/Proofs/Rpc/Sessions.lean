import NumaFabric.Kernel.Recorder
import NumaFabric.Proofs.Gpu.Grants
import NumaFabric.Rpc.Server

namespace NumaFabric

namespace Service

variable {lk dev : Type} (b : Backend lk dev) (s : Service lk dev)

theorem scheduler_runCommand (frame : List UInt8) (streamHandle : UInt64) :
    (s.runCommand b frame streamHandle).2.scheduler = s.scheduler := by
  unfold runCommand
  split
  · rfl
  · split <;> rfl

theorem owner?_of_acquireGpu {client : ClientId} {uuid u : String} {id : ClientId}
    (h : (s.acquireGpu client uuid).2.scheduler.owner? u = some id) :
    s.scheduler.owner? u = some id ∨ id = client := by
  unfold acquireGpu at h
  split at h
  · rename_i s' hs'
    rw [Scheduler.owner?_of_acquire hs'] at h
    split at h
    · exact .inr (Option.some.inj h).symm
    · exact .inl h
  · exact .inl h

theorem owner?_of_releaseGpu {client : ClientId} {uuid u : String} {id : ClientId}
    (h : (s.releaseGpu client uuid).2.scheduler.owner? u = some id) :
    s.scheduler.owner? u = some id := by
  unfold releaseGpu at h
  split at h
  · rename_i s' hs'
    rw [Scheduler.owner?_of_release hs'] at h
    split at h
    · cases h
    · exact h
  · exact h

end Service

namespace Rpc

/-- The name that a request announces; an empty one is none. -/
def Request.name? : Request → Option ClientId
  | .hello (some name) => if name.isEmpty then none else some name
  | _ => none

def announced? (message : List UInt8) : Option ClientId :=
  (Request.decode? message).bind Request.name?

namespace Session

variable {lk dev : Type} {b : Backend lk dev} {s : Session} {services : Service lk dev}
  {message : List UInt8} {request : Request}

/-- The session after a message, whatever the services answer. -/
def hear (s : Session) (message : List UInt8) : Session :=
  match Request.decode? message with
  | none => s
  | some (.hello name) => if s.greeted then s else { s with greeted := true }.greet name
  | some _ => { s with greeted := true }

theorem greet_eq (s : Session) (name : Option String) :
    s.greet name =
      match (Request.hello name).name? with
      | none => s
      | some id => { s with client := id, named := true } := by
  cases name with
  | none => rfl
  | some name =>
      rw [greet, Request.name?]
      split <;> rfl

theorem hear_of_hello {name : Option String} (h : Request.decode? message = some (.hello name))
    (hfirst : s.greeted = false) : s.hear message = { s with greeted := true }.greet name := by
  rw [hear, h]
  exact if_neg (by simp [hfirst])

theorem hear_of_ne_hello (h : Request.decode? message = some request)
    (hne : ∀ name, request ≠ .hello name) : s.hear message = { s with greeted := true } := by
  cases request with
  | hello name => exact absurd rfl (hne name)
  | _ => rw [hear, h]

theorem eq_of_greeted (h : s.greeted = true) : { s with greeted := true } = s := by
  cases s
  cases h
  rfl

theorem hear_of_greeted {s : Session} (h : s.greeted = true) (message : List UInt8) :
    s.hear message = s := by
  unfold hear
  split
  · rfl
  · exact if_pos h
  · exact eq_of_greeted h

theorem greeted_hear {s : Session} (h : s.greeted = true) (message : List UInt8) :
    (s.hear message).greeted = true := by
  rwa [hear_of_greeted h message]

theorem hear_of_decode? (h : Request.decode? message = some request) (hfirst : s.greeted = false) :
    s.hear message =
      match request.name? with
      | none => { s with greeted := true }
      | some id => ⟨id, true, true⟩ := by
  cases request with
  | hello name =>
      rw [hear_of_hello h hfirst, greet_eq]
  | _ =>
      rw [hear_of_ne_hello h nofun]
      rfl

theorem greeted_hear_of_decode? (h : Request.decode? message = some request) :
    (s.hear message).greeted = true := by
  cases hg : s.greeted with
  | true => exact greeted_hear hg message
  | false =>
      rw [hear_of_decode? h hg]
      split <;> rfl

theorem client_hear_of_decode? (h : Request.decode? message = some request)
    (hfirst : s.greeted = false) : (s.hear message).client = request.name?.getD s.client := by
  rw [hear_of_decode? h hfirst]
  cases request.name? <;> rfl

theorem hear_cases (s : Session) (message : List UInt8) :
    ((s.hear message).client = s.client ∧ (s.hear message).named = s.named) ∨
      (s.hear message).named = true := by
  cases hg : s.greeted with
  | true =>
      rw [hear_of_greeted hg]
      exact .inl ⟨rfl, rfl⟩
  | false =>
      cases h : Request.decode? message with
      | none =>
          rw [hear, h]
          exact .inl ⟨rfl, rfl⟩
      | some request =>
          rw [hear_of_decode? h hg]
          split
          · exact .inl ⟨rfl, rfl⟩
          · exact .inr rfl

theorem named_hear {s : Session} (h : s.named = true) (message : List UInt8) :
    (s.hear message).named = true := by
  rcases s.hear_cases message with ⟨-, hsame⟩ | hnamed
  · exact hsame.trans h
  · exact hnamed

theorem answer_of_decode?_eq_none (h : Request.decode? message = none) :
    s.answer b services message = (invalidRequest malformed, s, services) := by
  rw [answer, h]

theorem answer_of_decode?_eq_some (h : Request.decode? message = some request) :
    s.answer b services message =
      perform b s.greeted { s with greeted := true } services request := by
  rw [answer, h]

theorem respond_ne_welcome {α : Type} {f : α → Response} {id : ClientId}
    (hf : ∀ a, f a ≠ .welcome id) (r : Except ServiceError α) : respond f r ≠ .welcome id := by
  cases r with
  | ok a => exact hf a
  | error e =>
      rw [respond]
      split <;> nofun

theorem answer_of_hello {name : Option String} (h : Request.decode? message = some (.hello name))
    (hfirst : s.greeted = false) :
    s.answer b services message = (.welcome (s.hear message).client, s.hear message, services) := by
  simp [answer_of_decode?_eq_some h, perform, hear, h, hfirst]

theorem answer_of_lateHello {name : Option String}
    (h : Request.decode? message = some (.hello name)) (hlate : s.greeted = true) :
    s.answer b services message = (invalidRequest lateHello, s, services) := by
  rw [answer_of_decode?_eq_some h, perform, if_pos hlate, eq_of_greeted hlate]

theorem session_answer (b : Backend lk dev) (s : Session) (services : Service lk dev)
    (message : List UInt8) : (s.answer b services message).2.1 = s.hear message := by
  cases h : Request.decode? message with
  | none => rw [answer_of_decode?_eq_none h, hear, h]
  | some request =>
      cases request with
      | hello name =>
          cases hg : s.greeted with
          | false => rw [answer_of_hello h hg]
          | true => rw [answer_of_lateHello h hg, hear_of_greeted hg]
      | _ =>
          rw [answer_of_decode?_eq_some h, hear_of_ne_hello h nofun]
          rfl

theorem answer_eq_welcome_iff {id : ClientId} :
    (s.answer b services message).1 = .welcome id ↔
      (∃ name, Request.decode? message = some (.hello name)) ∧ s.greeted = false ∧
        id = (s.hear message).client := by
  cases h : Request.decode? message with
  | none =>
      rw [answer_of_decode?_eq_none h]
      simp [invalidRequest]
  | some request =>
      cases request with
      | hello name =>
          cases hg : s.greeted with
          | false =>
              rw [answer_of_hello h hg]
              simp [eq_comm]
          | true =>
              rw [answer_of_lateHello h hg]
              simp [invalidRequest]
      | listGpus | acquireGpu | releaseGpu | gpuStatus | runCommand | launchKernel =>
          rw [answer_of_decode?_eq_some h]
          simp [perform, respond_ne_welcome]

/-- What a message can do: nothing, or name the session, or have GPUs change hands, to nobody but the
session's client. -/
theorem answer_cases (b : Backend lk dev) (s : Session) (services : Service lk dev)
    (message : List UInt8) :
    (s.answer b services message).2 = (s, services) ∨
    (s.greeted = false ∧ ∃ name, announced? message = some name ∧
      s.answer b services message = (.welcome name, ⟨name, true, true⟩, services)) ∨
    ((s.answer b services message).2.1 = { s with greeted := true } ∧
      ∀ u id, (s.answer b services message).2.2.scheduler.owner? u = some id →
        services.scheduler.owner? u = some id ∨ id = s.client) := by
  cases hm : Request.decode? message with
  | none =>
      left
      rw [answer_of_decode?_eq_none hm]
  | some request =>
      cases request with
      | hello name =>
          cases hg : s.greeted with
          | true =>
              left
              rw [answer_of_lateHello hm hg]
          | false =>
              right
              rw [answer_of_hello hm hg, hear_of_decode? hm hg]
              cases hname : (Request.hello name).name? with
              | none =>
                  right
                  exact ⟨rfl, fun _ _ => .inl⟩
              | some id =>
                  left
                  refine ⟨rfl, id, ?_, rfl⟩
                  rw [announced?, hm]
                  exact hname
      | acquireGpu uuid =>
          right; right
          rw [answer_of_decode?_eq_some hm]
          exact ⟨rfl, fun u id h => Service.owner?_of_acquireGpu services h⟩
      | releaseGpu uuid =>
          right; right
          rw [answer_of_decode?_eq_some hm]
          exact ⟨rfl, fun u id h => .inl (Service.owner?_of_releaseGpu services h)⟩
      | runCommand command streamHandle =>
          right; right
          rw [answer_of_decode?_eq_some hm]
          refine ⟨rfl, fun u id h => .inl ?_⟩
          rw [← Service.scheduler_runCommand b services command streamHandle]
          exact h
      | listGpus | gpuStatus | launchKernel =>
          right; right
          rw [answer_of_decode?_eq_some hm]
          exact ⟨rfl, fun _ _ => .inl⟩

theorem owner?_finish {u : String} {id : ClientId} :
    (s.finish services).scheduler.owner? u = some id ↔
      services.scheduler.owner? u = some id ∧ (s.named = false → id ≠ s.client) := by
  cases hn : s.named with
  | true => simp [finish, hn]
  | false =>
      simp only [finish, hn, Bool.false_eq_true, if_false, Scheduler.owner?_releaseAll]
      split
      · rename_i howned
        simp [howned, eq_comm]
      · rename_i hother
        constructor
        · rintro h
          exact ⟨h, fun _ heq => hother (heq ▸ h)⟩
        · exact And.left

end Session

namespace Server

variable {lk dev : Type}

def session? (s : Server lk dev) (connection : Nat) : Option Session :=
  (s.connections.get? connection).map (·.session)

inductive Action where
  | connect
  | receive (connection : Nat) (message : List UInt8)
  | disconnect (connection : Nat)
deriving DecidableEq

def act (b : Backend lk dev) (ids : Nat → ClientId) (s : Server lk dev) :
    Action → Option Response × Server lk dev
  | .connect => (none, s.connect ids s.opened)
  | .receive connection message => s.receive b connection message
  | .disconnect connection => (none, s.disconnect connection)

def after (b : Backend lk dev) (ids : Nat → ClientId) (s : Server lk dev)
    (actions : List Action) : Server lk dev :=
  actions.foldl (fun s a => (s.act b ids a).2) s

section Run

variable (b : Backend lk dev) (ids : Nat → ClientId) (s : Server lk dev)

theorem after_append (actions rest : List Action) :
    s.after b ids (actions ++ rest) = (s.after b ids actions).after b ids rest :=
  List.foldl_append

theorem after_concat (actions : List Action) (a : Action) :
    s.after b ids (actions ++ [a]) = ((s.after b ids actions).act b ids a).2 := by
  rw [after_append]
  rfl

end Run

variable {b : Backend lk dev} {ids : Nat → ClientId} {s : Server lk dev} {n : Nat} {c : Session}
  {message : List UInt8}

/-! What is open, and as whom. -/

theorem session?_connect (m : Nat) :
    (s.connect ids n).session? m = if m = n then some (.new (ids s.opened)) else s.session? m := by
  by_cases hm : m = n
  · subst hm
    rw [if_pos rfl, session?, connect, OrderedMap.get?_insert_self]
    rfl
  · rw [if_neg hm, session?, connect, s.connections.get?_insert_of_ne _ (Ne.symm hm), session?]

theorem session?_disconnect (m : Nat) :
    (s.disconnect n).session? m = if m = n then none else s.session? m := by
  unfold disconnect
  split
  · rename_i hnone
    by_cases hm : m = n
    · subst hm
      rw [if_pos rfl, session?, hnone, Option.map_none]
    · rw [if_neg hm]
  · by_cases hm : m = n
    · subst hm
      rw [if_pos rfl, session?, OrderedMap.get?_erase_self, Option.map_none]
    · rw [if_neg hm, session?, s.connections.get?_erase_of_ne (Ne.symm hm), session?]

theorem exists_connection (h : s.session? n = some c) :
    ∃ reader, s.connections.get? n = some ⟨c, reader⟩ := by
  rw [session?, Option.map_eq_some_iff] at h
  obtain ⟨⟨c, reader⟩, hget, rfl⟩ := h
  exact ⟨reader, hget⟩

theorem receive_of_session? (b : Backend lk dev) (h : s.session? n = some c)
    (message : List UInt8) :
    (s.receive b n message).1 = some (c.answer b s.services message).1 ∧
      (s.receive b n message).2.services = (c.answer b s.services message).2.2 := by
  obtain ⟨reader, hget⟩ := exists_connection h
  rw [receive, hget]
  exact ⟨rfl, rfl⟩

theorem receive_of_session?_eq_none (h : s.session? n = none) :
    s.receive b n message = (none, s) := by
  rw [session?, Option.map_eq_none_iff] at h
  rw [receive, h]

theorem session?_receive (h : s.session? n = some c) (m : Nat) :
    (s.receive b n message).2.session? m =
      if m = n then some (c.hear message) else s.session? m := by
  obtain ⟨reader, hget⟩ := exists_connection h
  simp only [receive, hget]
  by_cases hm : m = n
  · subst hm
    rw [if_pos rfl, session?, OrderedMap.get?_insert_self, Option.map_some, Session.session_answer]
  · rw [if_neg hm, session?, s.connections.get?_insert_of_ne _ (Ne.symm hm), session?]

theorem first_of_welcome (h : s.session? n = some c) {name : ClientId}
    (hwelcome : (s.receive b n message).1 = some (.welcome name)) :
    c.greeted = false ∧ name = (c.hear message).client := by
  rw [(receive_of_session? b h message).1, Option.some.injEq, Session.answer_eq_welcome_iff] at hwelcome
  exact hwelcome.2

theorem receive_of_answer_eq (h : s.session? n = some c)
    (hsame : (c.answer b s.services message).2 = (c, s.services)) :
    (s.receive b n message).2 = s := by
  obtain ⟨reader, hget⟩ := exists_connection h
  simp only [receive, hget, hsame, s.connections.insert_of_get? hget]

theorem services_disconnect (h : s.session? n = some c) :
    (s.disconnect n).services = c.finish s.services := by
  obtain ⟨reader, hget⟩ := exists_connection h
  rw [disconnect, hget]

theorem disconnect_of_session?_eq_none (h : s.session? n = none) : s.disconnect n = s := by
  rw [session?, Option.map_eq_none_iff] at h
  rw [disconnect, h]

theorem opened_receive : (s.receive b n message).2.opened = s.opened := by
  unfold receive
  split <;> rfl

theorem opened_disconnect : (s.disconnect n).opened = s.opened := by
  unfold disconnect
  split <;> rfl

theorem opened_le_act (a : Action) : s.opened ≤ (s.act b ids a).2.opened := by
  cases a with
  | connect => exact Nat.le_succ s.opened
  | receive m message => exact Nat.le_of_eq opened_receive.symm
  | disconnect m => exact Nat.le_of_eq opened_disconnect.symm

/-! A server with two GPUs. -/

def pairOfServices : Service Unit UInt64 where
  scheduler := .ofGpus Scheduler.pairOfGpus true
  router := ⟨0, .empty, .empty, .of .empty, .once, ()⟩
  launcher := .new "kernels"
  modules := ⟨"", []⟩
  device := 0

def quietBackend : Backend Unit UInt64 := ⟨fun _ _ _ _ => (.ok (), ()), dryRun⟩

def hashIds (k : Nat) : ClientId := String.ofList ('#' :: List.replicate k '#')

theorem hashIds_injective : hashIds.Injective := by
  intro k k' h
  have hlength := congrArg (fun s : String => s.toList.length) h
  simpa [hashIds] using hlength

end Server

end Rpc

end NumaFabric
