import NumaFabric.Cluster

namespace NumaFabric

open NumaFabric.Wire

namespace Connections

/-- Every cached transport can send to the peer that it is cached for. -/
def Connected (c : Connections) : Prop :=
  ∀ peer n, c.lookup? peer = some n →
    ∃ port, c.transport? n = some ⟨.ready, true, .of peer port⟩

theorem connected_empty : Connected .empty := by
  intro peer n h
  cases h

def withTransport (c : Connections) (peer : IpAddress) (port : UInt16) : Connections :=
  ⟨c.made ++ [⟨.ready, true, .of peer port⟩], c.cached ++ [(peer, c.made.length)]⟩

theorem transport?_withTransport (c : Connections) (peer : IpAddress) (port : UInt16) :
    (c.withTransport peer port).transport? c.made.length =
      some ⟨.ready, true, .of peer port⟩ := by
  change (c.made ++ [_])[c.made.length]? = _
  rw [List.getElem?_append_right (Nat.le_refl _), Nat.sub_self]
  rfl

theorem Connected.withTransport {c : Connections} (h : c.Connected) (peer : IpAddress)
    (port : UInt16) : (c.withTransport peer port).Connected := by
  intro q n hlookup
  have hcases : (c.lookup? q).or (List.lookup q [(peer, c.made.length)]) = some n := by
    rw [← hlookup]
    exact List.lookup_append.symm
  cases hold : c.lookup? q with
  | some m =>
      rw [hold, Option.some_or] at hcases
      cases hcases
      obtain ⟨old, htransport⟩ := h q n hold
      change c.made[n]? = _ at htransport
      obtain ⟨hlt, -⟩ := List.getElem?_eq_some_iff.mp htransport
      refine ⟨old, ?_⟩
      change (c.made ++ [_])[n]? = _
      rw [List.getElem?_append_left hlt]
      exact htransport
  | none =>
      rw [hold, Option.none_or, List.lookup_cons] at hcases
      split at hcases
      · rename_i heq
        cases hcases
        rw [beq_iff_eq.mp heq]
        exact ⟨port, c.transport?_withTransport peer port⟩
      · cases hcases

theorem exists_acquire_eq {σ : Type} {w : Wiring σ} (hw : ∀ n, w.make n = .ok) {c : Connections}
    (h : c.Connected) (peer : IpAddress) :
    ∃ n c' port, c.acquire w peer = (.ok n, c') ∧ c'.Connected ∧
      c'.transport? n = some ⟨.ready, true, .of peer port⟩ := by
  unfold acquire
  cases hlookup : c.lookup? peer with
  | some n =>
      obtain ⟨port, htransport⟩ := h peer n hlookup
      exact ⟨n, c, port, rfl, h, htransport⟩
  | none =>
      refine ⟨c.made.length, c.withTransport peer w.peerPort, w.peerPort, ?_,
        h.withTransport peer w.peerPort, c.transport?_withTransport peer w.peerPort⟩
      simp only [connect, hw]
      rfl

theorem exists_sendTo_eq {addresses : List IpAddress} {c : Connections} (h : c.Connected)
    {peer : IpAddress} (hpeer : peer ∈ addresses) (data : List UInt8) (sent : Transit) :
    ∃ c', c'.Connected ∧ c.sendTo (Cluster.wiring addresses) peer data sent =
      (.ok (), c', sent ++ [(peer, data)]) := by
  obtain ⟨n, c', port, hacquire, hc', htransport⟩ :=
    exists_acquire_eq (w := Cluster.wiring addresses) (fun _ => rfl) h peer
  have hdeliver : (Cluster.wiring addresses).deliver peer data sent =
      (.ok (), sent ++ [(peer, data)]) := if_pos (List.contains_iff_mem.mpr hpeer)
  have htransmit : c'.transmit (Cluster.wiring addresses) n data sent =
      (.ok (), sent ++ [(peer, data)]) := by
    simp only [transmit, htransport, Phase.ensureReady, if_true, SocketAddress.of, hdeliver]
  refine ⟨c', hc', ?_⟩
  simp only [sendTo, hacquire, htransmit, afterSend]

theorem exists_forward_eq {addresses : List IpAddress} {c : Connections} (h : c.Connected)
    {peer : IpAddress} (hpeer : peer ∈ addresses) (owner : NodeId) {command : Command}
    {frame : List UInt8} (hframe : encodeFramed command = .ok frame) (sent : Transit) :
    ∃ c', c'.Connected ∧ forward (Cluster.wiring addresses) owner peer command (c, sent) =
      (.ok (), (c', sent ++ [(peer, frame)])) := by
  obtain ⟨c', hc', hsend⟩ := exists_sendTo_eq h hpeer frame sent
  refine ⟨c', hc', ?_⟩
  simp only [forward, hframe, hsend]

end Connections

end NumaFabric
