import NumaFabric.Link.Connections
import Mathlib.Data.List.Nodup

namespace NumaFabric

def Transport.answer (t : Transport) : Except TransferError Unit :=
  match t.phase.ensureReady with
  | .error e => .error e
  | .ok () => if t.wired then .ok () else .error .noPeer

theorem Transport.close_close (t : Transport) : t.close.close = t.close := rfl

theorem getElem?_concat_eq_some {α : Type} {l : List α} {new x : α} {i : Nat}
    (h : (l ++ [new])[i]? = some x) : l[i]? = some x ∨ (i = l.length ∧ new = x) := by
  by_cases hlt : i < l.length
  · rw [List.getElem?_append_left hlt] at h
    exact .inl h
  · rw [List.getElem?_append_right (Nat.le_of_not_lt hlt), List.getElem?_singleton] at h
    split at h
    · exact .inr ⟨by omega, Option.some.inj h⟩
    · cases h

namespace Connections

variable {σ : Type} {w : Wiring σ} {c : Connections} {n : Nat} {peer q : IpAddress}

def setUp (w : Wiring σ) (n : Nat) (peer : IpAddress) : Except TransferError Transport :=
  let fresh := Transport.make (w.make n) (.of peer w.peerPort)
  fresh.phase.init.map fun phase => { fresh with phase }

theorem setUp_eq (w : Wiring σ) (n : Nat) (peer : IpAddress) :
    setUp w n peer =
      match w.make n with
      | .ok => .ok ⟨.ready, true, .of peer w.peerPort⟩
      | .noPeer => .ok ⟨.ready, false, .of peer w.peerPort⟩
      | .preclosed => .error .closed
      | .preinitialized => .error .alreadyInitialized := by
  unfold setUp
  cases w.make n <;> rfl

theorem ready_of_setUp {t : Transport} (h : setUp w n peer = .ok t) :
    t.phase = .ready ∧ t.peer = .of peer w.peerPort := by
  rw [setUp_eq] at h
  split at h <;> cases h <;> exact ⟨rfl, rfl⟩

theorem setUp_ne_ok_of_error {e : TransferError} (h : setUp w n peer = .error e) (t : Transport) :
    setUp w n q ≠ .ok t := by
  rw [setUp_eq] at h ⊢
  split at h <;> simp_all

theorem connect_of_setUp_ok {t : Transport} (h : setUp w c.made.length peer = .ok t) :
    c.connect w peer =
      (.ok c.made.length, ⟨c.made ++ [t], c.cached ++ [(peer, c.made.length)]⟩) := by
  unfold setUp at h
  unfold connect
  dsimp only at h ⊢
  cases hinit : (Transport.make (w.make c.made.length) (.of peer w.peerPort)).phase.init with
  | error e =>
      rw [hinit] at h
      cases h
  | ok phase =>
      rw [hinit] at h
      cases h
      rfl

theorem exists_connect_eq_of_setUp_error {e : TransferError}
    (h : setUp w c.made.length peer = .error e) :
    ∃ t, t.phase = .closed ∧
      c.connect w peer = (.error e, { c with made := c.made ++ [t] }) := by
  unfold setUp at h
  unfold connect
  dsimp only at h ⊢
  cases hinit : (Transport.make (w.make c.made.length) (.of peer w.peerPort)).phase.init with
  | error e' =>
      rw [hinit] at h
      cases h
      exact ⟨_, rfl, rfl⟩
  | ok phase =>
      rw [hinit] at h
      cases h

/-! What each operation does to the cache. -/

theorem lookup?_append (made : List Transport) (cached : List (IpAddress × Nat)) (n : Nat) :
    (Connections.mk made (cached ++ [(peer, n)])).lookup? q =
      (cached.lookup q).or (if q = peer then some n else none) := by
  rw [lookup?, List.lookup_append, List.lookup_cons]
  by_cases h : q = peer
  · simp [h]
  · simp [h, beq_eq_false_iff_ne.mpr h]

theorem lookup?_append_of_missing (hnone : c.lookup? peer = none) (t : Transport) (q : IpAddress) :
    (Connections.mk (c.made ++ [t]) (c.cached ++ [(peer, c.made.length)])).lookup? q =
      if q = peer then some c.made.length else c.lookup? q := by
  rw [lookup?_append]
  change c.cached.lookup peer = none at hnone
  by_cases hq : q = peer
  · rw [if_pos hq, if_pos hq, hq, hnone, Option.none_or]
  · rw [if_neg hq, if_neg hq, Option.or_none]
    rfl

theorem lookup?_evict (c : Connections) (peer q : IpAddress) :
    (c.evict peer).lookup? q = if q = peer then none else c.lookup? q := by
  change (c.cached.filter fun e => e.1 ≠ peer).lookup q = if q = peer then none else c.cached.lookup q
  induction c.cached with
  | nil => simp
  | cons entry rest ih =>
      obtain ⟨key, n⟩ := entry
      by_cases hkey : key = peer
      · subst hkey
        rw [List.filter_cons_of_neg (by simp), ih, List.lookup_cons]
        by_cases hq : q = key
        · simp [hq]
        · simp [hq, beq_eq_false_iff_ne.mpr hq]
      · rw [List.filter_cons_of_pos (by simpa using hkey), List.lookup_cons, List.lookup_cons, ih]
        by_cases hq : q = key
        · simp [hq, hkey]
        · simp [beq_eq_false_iff_ne.mpr hq]

theorem lookup?_ne_none_of_mem {n : Nat} (h : (peer, n) ∈ c.cached) : c.lookup? peer ≠ none := by
  intro hnone
  have hne := List.lookup_eq_none_iff.mp hnone (peer, n) h
  simp at hne

theorem closeTransport_eq (c : Connections) (n : Nat) :
    (c.closeTransport n).cached = c.cached ∧
      (c.closeTransport n).made.length = c.made.length ∧
      ∀ m, (c.closeTransport n).transport? m =
        (c.transport? m).map fun t => if m = n then t.close else t := by
  unfold closeTransport
  cases ht : c.transport? n with
  | none =>
      refine ⟨rfl, rfl, ?_⟩
      intro m
      by_cases hm : m = n
      · simp [hm, ht]
      · simp [hm]
  | some t =>
      refine ⟨rfl, List.length_set, ?_⟩
      intro m
      change (c.made.set n t.close)[m]? = _
      by_cases hm : m = n
      · subst hm
        have hlt := (List.getElem?_eq_some_iff.mp ht).1
        rw [List.getElem?_set_self hlt, ht]
        simp
      · rw [List.getElem?_set_ne (Ne.symm hm)]
        simp [hm, transport?]

/-- What a registry keeps: one transport for a peer at most, which was set up for that peer and may
have been closed since; a transport that could not be set up is closed. -/
structure Kept (w : Wiring σ) (c : Connections) : Prop where
  nodup : (c.cached.map (·.1)).Nodup
  cached : ∀ peer n, c.lookup? peer = some n →
    ∃ t, setUp w n peer = .ok t ∧ (c.transport? n = some t ∨ c.transport? n = some t.close)
  failed : ∀ n t peer e, c.transport? n = some t → setUp w n peer = .error e → t.phase = .closed

theorem kept_empty (w : Wiring σ) : Kept w .empty := by
  refine ⟨List.nodup_nil, ?_, ?_⟩
  · intro _ _ h
    cases h
  · intro _ _ _ _ h
    cases h

theorem transport?_append_left {t : Transport} (h : c.transport? n = some t) (new : Transport)
    (cached : List (IpAddress × Nat)) :
    (Connections.mk (c.made ++ [new]) cached).transport? n = some t := by
  have hlt := (List.getElem?_eq_some_iff.mp h).1
  exact (List.getElem?_append_left hlt).trans h

theorem transport?_append_self (new : Transport) (cached : List (IpAddress × Nat)) :
    (Connections.mk (c.made ++ [new]) cached).transport? c.made.length = some new :=
  List.getElem?_concat_length

theorem transport?_append_eq_some {new t : Transport} {cached : List (IpAddress × Nat)}
    (h : (Connections.mk (c.made ++ [new]) cached).transport? n = some t) :
    c.transport? n = some t ∨ (n = c.made.length ∧ new = t) :=
  getElem?_concat_eq_some h

theorem Kept.connect (h : Kept w c) (hnone : c.lookup? peer = none) :
    Kept w (c.connect w peer).2 := by
  cases hsetUp : setUp w c.made.length peer with
  | ok t =>
      rw [connect_of_setUp_ok hsetUp]
      constructor
      case nodup =>
        rw [List.map_append, List.map_singleton]
        refine List.nodup_append.mpr ⟨h.nodup, List.nodup_singleton peer, ?_⟩
        rintro key hkey other hother rfl
        obtain rfl := List.mem_singleton.mp hother
        obtain ⟨⟨_, n⟩, hin, rfl⟩ := List.mem_map.mp hkey
        exact lookup?_ne_none_of_mem hin hnone
      case cached =>
        intro q n hlookup
        rw [lookup?_append] at hlookup
        cases hold : c.cached.lookup q with
        | some m =>
            rw [hold, Option.some_or] at hlookup
            cases hlookup
            obtain ⟨t', hok, ht'⟩ := h.cached q n hold
            exact ⟨t', hok, ht'.imp (transport?_append_left · t _) (transport?_append_left · t _)⟩
        | none =>
            rw [hold, Option.none_or] at hlookup
            split at hlookup
            · rename_i heq
              cases hlookup
              rw [heq]
              exact ⟨t, hsetUp, .inl (transport?_append_self t _)⟩
            · cases hlookup
      case failed =>
        intro n t' q e htransport hfails
        rcases transport?_append_eq_some htransport with hold | ⟨rfl, rfl⟩
        · exact h.failed n t' q e hold hfails
        · exact absurd hsetUp (setUp_ne_ok_of_error hfails t)
  | error e =>
      obtain ⟨t, hclosed, hconnect⟩ := exists_connect_eq_of_setUp_error hsetUp
      rw [hconnect]
      refine ⟨h.nodup, ?_, ?_⟩
      · intro q n hlookup
        obtain ⟨t', hok, ht'⟩ := h.cached q n hlookup
        exact ⟨t', hok, ht'.imp (transport?_append_left · t _) (transport?_append_left · t _)⟩
      · intro n t' q e' htransport hfails
        rcases transport?_append_eq_some htransport with hold | ⟨-, rfl⟩
        · exact h.failed n t' q e' hold hfails
        · exact hclosed

theorem Kept.evict (h : Kept w c) (peer : IpAddress) : Kept w (c.evict peer) := by
  refine ⟨(List.filter_sublist.map _).nodup h.nodup, ?_, h.failed⟩
  intro q n hlookup
  rw [lookup?_evict] at hlookup
  split at hlookup
  · cases hlookup
  · exact h.cached q n hlookup

theorem Kept.closeTransport (h : Kept w c) (n : Nat) : Kept w (c.closeTransport n) := by
  obtain ⟨hcached, -, htransport⟩ := c.closeTransport_eq n
  constructor
  case nodup =>
    rw [hcached]
    exact h.nodup
  case cached =>
    intro q m hlookup
    rw [lookup?, hcached] at hlookup
    obtain ⟨t, hok, ht⟩ := h.cached q m hlookup
    refine ⟨t, hok, ?_⟩
    by_cases hm : m = n
    · subst hm
      right
      rcases ht with ht | ht <;> simp [htransport, ht, Transport.close_close]
    · simpa [htransport, hm] using ht
  case failed =>
    intro m t q e ht hfails
    rw [htransport, Option.map_eq_some_iff] at ht
    obtain ⟨t', hold, rfl⟩ := ht
    have hclosed := h.failed m t' q e hold hfails
    split
    · rfl
    · exact hclosed

theorem Kept.closeTransports (h : Kept w c) (entries : List (IpAddress × Nat)) :
    let closed := entries.foldl (fun c e => c.closeTransport e.2) c
    Kept w closed ∧ closed.made.length = c.made.length := by
  induction entries generalizing c with
  | nil => exact ⟨h, rfl⟩
  | cons entry entries ih =>
      obtain ⟨hkept, hlength⟩ := ih (h.closeTransport entry.2)
      exact ⟨hkept, hlength.trans (c.closeTransport_eq entry.2).2.1⟩

theorem Kept.closeAll (h : Kept w c) :
    Kept w c.closeAll ∧ c.closeAll.made.length = c.made.length ∧
      ∀ peer, c.closeAll.lookup? peer = none := by
  obtain ⟨hkept, hlength⟩ := h.closeTransports c.cached
  refine ⟨⟨List.nodup_nil, ?_, hkept.failed⟩, hlength, fun _ => rfl⟩
  intro _ _ hlookup
  cases hlookup

end Connections

end NumaFabric
