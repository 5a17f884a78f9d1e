import NumaFabric.Ingress.Dispatcher

namespace NumaFabric

open NumaFabric.Wire

variable {σ : Type}

/-- A handler that also keeps a record of the commands it was given, and of how each ended. -/
def recorded (handler : Handler σ) : Handler (σ × List (Command × Handled)) := fun c s =>
  ((handler c s.1).1, (handler c s.1).2, s.2 ++ [(c, (handler c s.1).1)])

def command? (datagram : List UInt8) : Option Command := (decodeFramed datagram).toOption

def refusal? (datagram : List UInt8) : Option CodecErrorClass :=
  match decodeFramed datagram with
  | .ok _ => none
  | .error e => some e.errorClass

def isCorrupt (datagram : List UInt8) : Bool := refusal? datagram == some .checksum

def isMalformed (datagram : List UInt8) : Bool :=
  refusal? datagram == some .format || refusal? datagram == some .sizeMismatch

section

variable {datagram : List UInt8}

theorem command?_of_ok {c : Command} (h : decodeFramed datagram = .ok c) :
    command? datagram = some c := by
  rw [command?, h]
  rfl

theorem command?_of_error {e : CodecError} (h : decodeFramed datagram = .error e) :
    command? datagram = none := by
  rw [command?, h]
  rfl

theorem refusal?_of_ok {c : Command} (h : decodeFramed datagram = .ok c) :
    refusal? datagram = none := by
  rw [refusal?, h]

theorem refusal?_of_error {e : CodecError} (h : decodeFramed datagram = .error e) :
    refusal? datagram = some e.errorClass := by
  rw [refusal?, h]

end

/-- A datagram holds a command, or is malformed, or else corrupt. -/
theorem length_eq_of_classes (datagrams : List (List UInt8)) :
    datagrams.length = datagrams.countP isMalformed + datagrams.countP isCorrupt +
      (datagrams.filterMap command?).length := by
  induction datagrams with
  | nil => rfl
  | cons datagram datagrams ih =>
      rw [List.length_cons, ih, List.countP_cons, List.countP_cons]
      cases hdecode : decodeFramed datagram with
      | ok c =>
          have hmalformed : isMalformed datagram = false := by
            rw [isMalformed, refusal?_of_ok hdecode]
            rfl
          have hcorrupt : isCorrupt datagram = false := by
            rw [isCorrupt, refusal?_of_ok hdecode]
            rfl
          simp [hmalformed, hcorrupt, List.filterMap_cons_some (command?_of_ok hdecode)]
          omega
      | error e =>
          have hclass : isMalformed datagram = !isCorrupt datagram := by
            rw [isMalformed, isCorrupt, refusal?_of_error hdecode]
            cases e.errorClass <;> rfl
          rw [List.filterMap_cons_none (command?_of_error hdecode), hclass]
          cases isCorrupt datagram <;> simp <;> omega

/-- What the counters say about the finished datagrams and the calls of the handler. -/
structure Tallied (finished : List (List UInt8)) (calls : List (Command × Handled))
    (stats : DispatchStats) : Prop where
  calls_eq : calls.map (·.1) = finished.filterMap command?
  malformed_eq : stats.malformed = .ofNat (finished.countP isMalformed)
  checksumFailed_eq : stats.checksumFailed = .ofNat (finished.countP isCorrupt)
  routed_eq : stats.routed = .ofNat (calls.countP fun call => call.2 = .done)
  routeFailed_eq : stats.routeFailed = .ofNat (calls.countP fun call => ¬ call.2 = .done)

theorem tallied_nil : Tallied [] [] .zero := ⟨rfl, rfl, rfl, rfl, rfl⟩

namespace Dispatcher

theorem process_of_error (handler : Handler σ) {datagram : List UInt8} {e : CodecError}
    (h : decodeFramed datagram = .error e) (stats : DispatchStats) (state : σ) :
    process handler datagram stats state = (stats.countError e, state) := by
  simp only [process, h]

theorem process_of_ok (handler : Handler σ) {datagram : List UInt8} {c : Command}
    (h : decodeFramed datagram = .ok c) (stats : DispatchStats) (state : σ) :
    process handler datagram stats state =
      (stats.countHandled (handler c state).1, (handler c state).2) := by
  simp only [process, h]

theorem entrance_process (handler : Handler σ) (datagram : List UInt8) (stats : DispatchStats)
    (state : σ) :
    (process handler datagram stats state).1.received = stats.received ∧
      (process handler datagram stats state).1.droppedFull = stats.droppedFull := by
  cases hdecode : decodeFramed datagram with
  | error e =>
      rw [process_of_error handler hdecode, DispatchStats.countError]
      cases e.errorClass <;> exact ⟨rfl, rfl⟩
  | ok c =>
      rw [process_of_ok handler hdecode]
      cases (handler c state).1 <;> exact ⟨rfl, rfl⟩

theorem recorded_process (handler : Handler σ) (datagram : List UInt8) (stats : DispatchStats)
    (state : σ × List (Command × Handled)) :
    (process (recorded handler) datagram stats state).1 =
        (process handler datagram stats state.1).1 ∧
      (process (recorded handler) datagram stats state).2.1 =
        (process handler datagram stats state.1).2 := by
  cases hdecode : decodeFramed datagram with
  | error e =>
      rw [process_of_error _ hdecode, process_of_error _ hdecode]
      exact ⟨rfl, rfl⟩
  | ok c =>
      rw [process_of_ok _ hdecode, process_of_ok _ hdecode]
      exact ⟨rfl, rfl⟩

end Dispatcher

namespace Tallied

open Dispatcher

variable {finished : List (List UInt8)} {calls : List (Command × Handled)} {stats : DispatchStats}

theorem of_entrance (h : Tallied finished calls stats) (received droppedFull : UInt64) :
    Tallied finished calls { stats with received, droppedFull } :=
  ⟨h.calls_eq, h.malformed_eq, h.checksumFailed_eq, h.routed_eq, h.routeFailed_eq⟩

theorem concat_of_error (h : Tallied finished calls stats) {datagram : List UInt8} {e : CodecError}
    (hdecode : decodeFramed datagram = .error e) :
    Tallied (finished ++ [datagram]) calls (stats.countError e) := by
  have hcommand := command?_of_error hdecode
  have hrefusal := refusal?_of_error hdecode
  constructor
  · rw [List.filterMap_append, List.filterMap_cons_none hcommand, List.filterMap_nil,
      List.append_nil, h.calls_eq]
  · rw [List.countP_append, List.countP_singleton, isMalformed, hrefusal, UInt64.ofNat_add,
      ← h.malformed_eq, DispatchStats.countError]
    cases e.errorClass <;> simp
  · rw [List.countP_append, List.countP_singleton, isCorrupt, hrefusal, UInt64.ofNat_add,
      ← h.checksumFailed_eq, DispatchStats.countError]
    cases e.errorClass <;> simp
  · rw [← h.routed_eq, DispatchStats.countError]
    cases e.errorClass <;> rfl
  · rw [← h.routeFailed_eq, DispatchStats.countError]
    cases e.errorClass <;> rfl

theorem concat_of_ok (h : Tallied finished calls stats) {datagram : List UInt8} {c : Command}
    (hdecode : decodeFramed datagram = .ok c) (handled : Handled) :
    Tallied (finished ++ [datagram]) (calls ++ [(c, handled)]) (stats.countHandled handled) := by
  have hcommand := command?_of_ok hdecode
  have hrefusal := refusal?_of_ok hdecode
  constructor
  · rw [List.filterMap_append, List.filterMap_cons_some hcommand, List.filterMap_nil,
      List.map_append, h.calls_eq]
    rfl
  · rw [List.countP_append, List.countP_singleton, isMalformed, hrefusal, UInt64.ofNat_add,
      ← h.malformed_eq]
    cases handled <;> simp [DispatchStats.countHandled]
  · rw [List.countP_append, List.countP_singleton, isCorrupt, hrefusal, UInt64.ofNat_add,
      ← h.checksumFailed_eq]
    cases handled <;> simp [DispatchStats.countHandled]
  · rw [List.countP_append, List.countP_singleton, UInt64.ofNat_add, ← h.routed_eq]
    cases handled <;> simp [DispatchStats.countHandled]
  · rw [List.countP_append, List.countP_singleton, UInt64.ofNat_add, ← h.routeFailed_eq]
    cases handled <;> simp [DispatchStats.countHandled]

theorem concat (handler : Handler σ) {state : σ × List (Command × Handled)}
    (h : Tallied finished state.2 stats) (datagram : List UInt8) :
    Tallied (finished ++ [datagram]) (process (recorded handler) datagram stats state).2.2
      (process (recorded handler) datagram stats state).1 := by
  cases hdecode : decodeFramed datagram with
  | error e =>
      rw [process_of_error _ hdecode]
      exact h.concat_of_error hdecode
  | ok c =>
      rw [process_of_ok _ hdecode]
      exact h.concat_of_ok hdecode (handler c state.1).1

theorem length_eq (h : Tallied finished calls stats) :
    finished.length = finished.countP isMalformed + finished.countP isCorrupt +
      (calls.countP fun call => call.2 = .done) + calls.countP fun call => ¬ call.2 = .done := by
  have hcalls : calls.length = _ :=
    List.length_eq_countP_add_countP (l := calls) fun call => call.2 = .done
  rw [length_eq_of_classes, ← h.calls_eq, List.length_map, hcalls]
  simp only [decide_eq_true_eq]
  omega

theorem counted (h : Tallied finished calls stats) : .ofNat finished.length =
    stats.malformed + stats.checksumFailed + stats.routed + stats.routeFailed := by
  rw [h.length_eq, UInt64.ofNat_add, UInt64.ofNat_add, UInt64.ofNat_add, ← h.malformed_eq,
    ← h.checksumFailed_eq, ← h.routed_eq, ← h.routeFailed_eq]

theorem counted_exactly (h : Tallied finished calls stats) (hfew : finished.length < UInt64.size) :
    finished.length = stats.malformed.toNat + stats.checksumFailed.toNat + stats.routed.toNat +
      stats.routeFailed.toNat := by
  have hlength := h.length_eq
  rw [h.malformed_eq, h.checksumFailed_eq, h.routed_eq, h.routeFailed_eq,
    UInt64.toNat_ofNat_of_lt' (by omega), UInt64.toNat_ofNat_of_lt' (by omega),
    UInt64.toNat_ofNat_of_lt' (by omega), UInt64.toNat_ofNat_of_lt' (by omega)]
  exact hlength

end Tallied

end NumaFabric
