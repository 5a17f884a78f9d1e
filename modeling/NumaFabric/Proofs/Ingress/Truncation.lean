import NumaFabric.Proofs.Ingress.Tally
import NumaFabric.Proofs.Wire.RoundTrip
/-!
Frames that are cut off, as when a datagram is longer than the buffer that receives it. Main
statement: what is left of a frame is never read as a command, the error tells how much is there, and
a handler is given the command of a whole frame or nothing.
-/

namespace NumaFabric

open NumaFabric.Wire

namespace Wire

/-- Every cut of a written form either holds all of the command or is refused for its length. -/
structure Command.ReadWhole (c : Command) (written : List UInt8) : Prop where
  in_header : ∀ k < headerLength, decodeFramed (written.take k) = .error (.headerTooShort k)
  in_rest : ∀ k, headerLength ≤ k → k < c.framedLength →
    decodeFramed (written.take k) = .error (.sizeMismatch c.framedLength k)
  whole : ∀ k, c.framedLength ≤ k → decodeFramed (written.take k) = .ok c

theorem decodeFramed_of_length_lt {bytes : List UInt8} (h : bytes.length < headerLength) :
    decodeFramed bytes = .error (.headerTooShort bytes.length) := by
  have hheader : decodeHeader bytes = .error (.headerTooShort bytes.length) := if_pos h
  simp only [decodeFramed, hheader, bind, Except.bind]

theorem decodeFramed_bytes_append_of_lt {c : Command} (hmax : c.payload.length ≤ maxPayload)
    {reserved : List UInt8} (hr : reserved.length = reservedLength) {rest : List UInt8}
    (hrest : headerLength + rest.length < c.framedLength) :
    decodeFramed (c.header.bytes reserved ++ rest) =
      .error (.sizeMismatch c.framedLength (headerLength + rest.length)) := by
  have hsize : c.header.dataSize.toNat = c.payload.length := toNat_dataSize hmax
  have hlength : (c.header.bytes reserved ++ rest).length = headerLength + rest.length := by
    rw [List.length_append, c.header.length_bytes hr]
  rw [decodeFramed_of_decodeHeader (decodeHeader_bytes_append c.header hr rest)]
  simp only [hsize, hlength]
  exact if_pos hrest

theorem Command.length_body (c : Command) :
    headerLength + (c.payload ++ littleEndian 4 c.checksum.toNat).length = c.framedLength := by
  rw [List.length_append, length_littleEndian, framedLength, checksumLength, Nat.add_assoc]

theorem Command.readWhole_of_isWrittenIn {c : Command} (hintact : c.IsIntact)
    (hmax : c.payload.length ≤ maxPayload) {written : List UInt8}
    (h : c.IsWrittenIn (c.payload ++ littleEndian 4 c.checksum.toNat) written) :
    c.ReadWhole written := by
  obtain ⟨reserved, suffix, hr, rfl⟩ := h
  have hheader := c.header.length_bytes hr
  have hbody := c.length_body
  constructor
  · intro k hk
    have hlength : ((c.header.bytes reserved ++
        ((c.payload ++ littleEndian 4 c.checksum.toNat) ++ suffix)).take k).length = k :=
      List.length_take_of_le (by rw [List.length_append, hheader]; omega)
    rw [decodeFramed_of_length_lt (by rwa [hlength]), hlength]
  · intro k hlow hhigh
    have hlength : (((c.payload ++ littleEndian 4 c.checksum.toNat) ++ suffix).take
        (k - headerLength)).length = k - headerLength :=
      List.length_take_of_le (by rw [List.length_append]; omega)
    rw [List.take_append, hheader, List.take_of_length_le (by omega),
      decodeFramed_bytes_append_of_lt hmax hr (by omega), hlength, Nat.add_sub_cancel' hlow]
  · -- What is kept is again a written form, with less after it.
    intro k hk
    have hcut : (c.header.bytes reserved ++
        ((c.payload ++ littleEndian 4 c.checksum.toNat) ++ suffix)).take k =
        c.header.bytes reserved ++ ((c.payload ++ littleEndian 4 c.checksum.toNat) ++
          suffix.take (k - c.framedLength)) := by
      rw [List.take_append, List.take_of_length_le (by omega), hheader, List.take_append,
        List.take_of_length_le (by omega), ← hbody, Nat.sub_sub]
    exact (decodeFramed_eq_ok_iff _ _).mpr ⟨hintact, hmax, reserved, _, hr, hcut⟩

end Wire

namespace Dispatcher

/-- A receiver that keeps at most `limit` bytes of the frame hands its command on once, or else counts
it as malformed and calls nothing. -/
structure HandsOnWhole (c : Command) (frame : List UInt8) : Prop where
  cut : ∀ {σ : Type} (d : Dispatcher σ),
    d.cut frame = frame.take (min d.maxDatagramSize c.framedLength)
  handed_on : ∀ {σ : Type} (handler : Handler σ) (stats : DispatchStats) (state : σ)
    (calls : List (Command × Handled)) (limit : Nat), c.framedLength ≤ limit →
    process (recorded handler) (frame.take (min limit c.framedLength)) stats (state, calls) =
      (stats.countHandled (handler c state).1, (handler c state).2,
        calls ++ [(c, (handler c state).1)])
  dropped : ∀ {σ : Type} (handler : Handler σ) (stats : DispatchStats) (state : σ)
    (calls : List (Command × Handled)) (limit : Nat), limit < c.framedLength →
    process (recorded handler) (frame.take (min limit c.framedLength)) stats (state, calls) =
      ({ stats with malformed := stats.malformed + 1 }, state, calls)

theorem handsOnWhole_of_readWhole {c : Command} {frame : List UInt8}
    (hlength : frame.length = c.framedLength) (h : c.ReadWhole frame) : HandsOnWhole c frame where
  cut d := by
    rw [← hlength, ← List.take_take, List.take_length]
    rfl
  handed_on handler stats state calls limit hlimit := by
    rw [Nat.min_eq_right hlimit, process_of_ok _ (h.whole _ (Nat.le_refl _))]
    rfl
  dropped handler stats state calls limit hlimit := by
    rw [Nat.min_eq_left (Nat.le_of_lt hlimit)]
    by_cases hshort : limit < headerLength
    · rw [process_of_error _ (h.in_header limit hshort)]
      rfl
    · rw [process_of_error _ (h.in_rest limit (Nat.not_lt.mp hshort) hlimit)]
      rfl

/-- The error for a frame that is cut off tells how much of it is there, and its command reaches the
handler once if all of it was received and never otherwise. -/
theorem handsOnWhole_of_isIntact (c : Command) (hintact : c.IsIntact)
    (hc : c.payload.length < 2 ^ 32) :
    ∃ frame, encodeFramed c = .ok frame ∧ frame.length = c.framedLength ∧ c.ReadWhole frame ∧
      HandsOnWhole c frame := by
  have hmax : c.payload.length ≤ maxPayload := Nat.le_pred_of_lt hc
  let body := c.payload ++ littleEndian 4 c.checksum.toNat
  have hwritten : encodeFramed c = .ok (encodeHeader c ++ body) := by
    rw [encodeFramed, if_neg (Nat.not_lt.mpr hmax), List.append_assoc]
  have hlength : (encodeHeader c ++ body).length = c.framedLength := by
    rw [← c.length_body, List.length_append, encodeHeader_eq,
      c.header.length_bytes (List.length_replicate ..)]
  have hread : c.ReadWhole (encodeHeader c ++ body) :=
    Command.readWhole_of_isWrittenIn hintact hmax (isWrittenIn_encodeHeader_append c body)
  exact ⟨_, hwritten, hlength, hread, handsOnWhole_of_readWhole hlength hread⟩

theorem handsOnWhole_three_bytes :
    let c := Command.copy 0x40 [1, 2, 3]
    let counting : Handler Nat := fun _ calls => (.brokeDown, calls + 1)
    c.IsIntact ∧ c.payload.length < 2 ^ 32 ∧ ∃ frame, encodeFramed c = .ok frame ∧
      decodeFramed (frame.take 31) = .error (.headerTooShort 31) ∧
      decodeFramed (frame.take 37) = .error (.sizeMismatch 39 37) ∧
      process (recorded counting) (frame.take (min 37 39)) .zero (0, []) =
        ({ DispatchStats.zero with malformed := 1 }, 0, []) ∧
      process (recorded counting) (frame.take (min 64 39)) .zero (0, []) =
        ({ DispatchStats.zero with routeFailed := 1 }, 1, [(c, .brokeDown)]) := by
  intro c counting
  obtain ⟨frame, hframe, -, hread, hhands⟩ := handsOnWhole_of_isIntact c rfl (by decide)
  exact ⟨rfl, by decide, frame, hframe, hread.in_header 31 (by decide),
    hread.in_rest 37 (by decide) (by decide),
    hhands.dropped counting .zero 0 [] 37 (by decide),
    hhands.handed_on counting .zero 0 [] 64 (by decide)⟩

end Dispatcher

end NumaFabric
