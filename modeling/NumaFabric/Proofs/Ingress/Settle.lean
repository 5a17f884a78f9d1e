import NumaFabric.Ingress.Dispatcher

namespace NumaFabric

open NumaFabric.Wire

namespace Dispatcher

variable {σ : Type} {d : Dispatcher σ}

structure Idle (d : Dispatcher σ) : Prop where
  not_closed : d.ring.closed = false
  nothing_waits : d.ring.items = []
  nothing_taken : d.inFlight = []
  staffed : d.workers ≠ 0

theorem Idle.withState (h : d.Idle) (state : σ) : ({ d with state } : Dispatcher σ).Idle :=
  ⟨h.not_closed, h.nothing_waits, h.nothing_taken, h.staffed⟩

theorem Idle.settle_eq (h : d.Idle) (handler : Handler σ) : d.settle handler = d := by
  rw [settle, if_neg h.staffed, Ring.size, h.nothing_waits, h.nothing_taken]
  rfl

theorem Idle.exists_submit_eq (h : d.Idle) (datagram : List UInt8) :
    ∃ ring pool stats, (d.submit datagram).2 = { d with ring, pool, stats } ∧
      ring.items = [datagram] ∧ ring.closed = false := by
  obtain ⟨pool, ⟨hclosed, -⟩ | ⟨-, hfull, -⟩ | ⟨-, -, ring, hitems, hopen, hsubmit⟩⟩ :=
    d.submit_cases datagram
  · rw [h.not_closed] at hclosed
    cases hclosed
  · rw [h.nothing_waits] at hfull
    exact absurd hfull (Nat.ne_of_lt d.ring.capacity_pos)
  · rw [h.nothing_waits, List.nil_append] at hitems
    rw [hsubmit]
    exact ⟨ring, pool, _, rfl, hitems, hopen⟩

theorem exists_settle_eq (handler : Handler σ) {datagram : List UInt8} {c : Command}
    (hitems : d.ring.items = [datagram]) (htaken : d.inFlight = []) (hstaffed : d.workers ≠ 0)
    (hdecode : decodeFramed datagram = .ok c) :
    ∃ ring pool stats,
      d.settle handler = { d with ring, pool, stats, state := (handler c d.state).2 } ∧
        ring.items = [] ∧ ring.closed = d.ring.closed := by
  obtain ⟨-, datagram', rest, hfirst, hclosed, htake⟩ | ⟨-, hempty, -⟩ | ⟨hbusy | ⟨hempty, -⟩, -⟩ :=
    d.take_cases
  · rw [hitems, List.cons.injEq] at hfirst
    obtain ⟨rfl, hrest⟩ := hfirst
    refine ⟨rest, d.pool.giveBack datagram, d.stats.countHandled (handler c d.state).1, ?_,
      hrest.symm, hclosed⟩
    have hwaiting : d.inFlight.length + d.ring.size = 1 := by
      rw [htaken, Ring.size, hitems]
      rfl
    rw [settle, if_neg hstaffed, hwaiting, work, work, htake, htaken]
    simp only [complete, process, hdecode, List.nil_append, List.getElem?_cons_zero,
      List.eraseIdx_cons_zero]
  · rw [hitems] at hempty
    cases hempty
  · rw [htaken] at hbusy
    exact absurd (Nat.le_zero.mp hbusy) hstaffed
  · rw [hitems] at hempty
    cases hempty

theorem Idle.settle_submit (h : d.Idle) (handler : Handler σ) {datagram : List UInt8} {c : Command}
    (hdecode : decodeFramed datagram = .ok c) :
    ((d.submit datagram).2.settle handler).Idle ∧
      ((d.submit datagram).2.settle handler).state = (handler c d.state).2 := by
  obtain ⟨waiting, pool, stats, hsubmit, hitems, hclosed⟩ := h.exists_submit_eq datagram
  rw [hsubmit]
  obtain ⟨ring, pool', stats', hsettle, hempty, hopen⟩ :=
    exists_settle_eq (d := { d with ring := waiting, pool, stats }) handler hitems
      h.nothing_taken h.staffed hdecode
  rw [hsettle]
  exact ⟨⟨hopen.trans hclosed, hempty, h.nothing_taken, h.staffed⟩, rfl⟩

end Dispatcher

end NumaFabric
