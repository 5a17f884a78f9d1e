import NumaFabric.Wire.Frame
import NumaFabric.Wire.WordLemmas

namespace NumaFabric.Wire

def reservedLength : Nat := 19

def Header.bytes (h : Header) (reserved : List UInt8) : List UInt8 :=
  h.operation.code :: (littleEndian 8 h.destination.toNat ++ littleEndian 4 h.dataSize.toNat ++
    reserved)

def Command.header (c : Command) : Header := ⟨c.operation, c.destination, c.dataSize⟩

theorem encodeHeader_eq (c : Command) :
    encodeHeader c = c.header.bytes (List.replicate reservedLength 0) := rfl

theorem Header.length_bytes (h : Header) {reserved : List UInt8}
    (hr : reserved.length = reservedLength) : (h.bytes reserved).length = headerLength := by
  simp [Header.bytes, hr, reservedLength, headerLength]

theorem ofLittleEndian_destination (a : Address) :
    UInt64.ofNat (ofLittleEndian (littleEndian 8 a.toNat)) = a := by
  have ha : a.toNat < 256 ^ 8 := a.toNat_lt
  rw [ofLittleEndian_littleEndian, Nat.mod_eq_of_lt ha, UInt64.ofNat_toNat]

theorem ofLittleEndian_word (w : UInt32) :
    UInt32.ofNat (ofLittleEndian (littleEndian 4 w.toNat)) = w := by
  have hw : w.toNat < 256 ^ 4 := w.toNat_lt
  rw [ofLittleEndian_littleEndian, Nat.mod_eq_of_lt hw, UInt32.ofNat_toNat]

theorem littleEndian_destination {bytes : List UInt8} (h : bytes.length = 8) :
    littleEndian 8 (UInt64.ofNat (ofLittleEndian bytes)).toNat = bytes := by
  have hlt : ofLittleEndian bytes < UInt64.size := by
    simpa [h] using ofLittleEndian_lt bytes
  rw [UInt64.toNat_ofNat_of_lt' hlt, ← h, littleEndian_ofLittleEndian]

theorem littleEndian_word {bytes : List UInt8} (h : bytes.length = 4) :
    littleEndian 4 (UInt32.ofNat (ofLittleEndian bytes)).toNat = bytes := by
  have hlt : ofLittleEndian bytes < UInt32.size := by
    simpa [h] using ofLittleEndian_lt bytes
  rw [UInt32.toNat_ofNat_of_lt' hlt, ← h, littleEndian_ofLittleEndian]

theorem decodeHeader_bytes_append (h : Header) {reserved : List UInt8}
    (hr : reserved.length = reservedLength) (rest : List UInt8) :
    decodeHeader (h.bytes reserved ++ rest) = .ok h := by
  have hlen : ¬ (h.bytes reserved ++ rest).length < headerLength := by
    simp [h.length_bytes hr]
  have hdestination : ((h.bytes reserved ++ rest).drop 1).take 8 =
      littleEndian 8 h.destination.toNat := by
    simp [Header.bytes]
  have hsize : ((h.bytes reserved ++ rest).drop 9).take 4 =
      littleEndian 4 h.dataSize.toNat := by
    simp [Header.bytes]
  have hcode : (h.bytes reserved ++ rest).headD 0 = h.operation.code := rfl
  simp only [decodeHeader, if_neg hlen, hcode, Operation.ofCode?_code, hdestination, hsize,
    ofLittleEndian_destination, ofLittleEndian_word]

theorem eq_append_of_headerLength_le {bytes : List UInt8} (h : headerLength ≤ bytes.length) :
    bytes = bytes.headD 0 :: ((bytes.drop 1).take 8 ++ (bytes.drop 9).take 4 ++
      (bytes.drop 13).take reservedLength) ++ bytes.drop headerLength := by
  cases bytes with
  | nil => simp [headerLength] at h
  | cons b bs =>
      have hsplit (n k : Nat) : bs.drop n = (bs.drop n).take k ++ bs.drop (n + k) := by
        rw [← List.drop_drop, List.take_append_drop]
      calc
        b :: bs = b :: (bs.take 8 ++ ((bs.drop 8).take 4 ++ ((bs.drop 12).take 19 ++
            bs.drop 31))) := by
          rw [← hsplit 12 19, ← hsplit 8 4, List.take_append_drop]
        _ = _ := by simp [headerLength, reservedLength]

theorem bytes_append_of_decodeHeader {bytes : List UInt8} {h : Header}
    (hd : decodeHeader bytes = .ok h) :
    ∃ reserved, reserved.length = reservedLength ∧
      bytes = h.bytes reserved ++ bytes.drop headerLength := by
  unfold decodeHeader at hd
  split at hd
  · cases hd
  · rename_i hlong
    have hlen : headerLength ≤ bytes.length := Nat.not_lt.mp hlong
    cases hcode : Operation.ofCode? (bytes.headD 0) with
    | none => simp only [hcode, reduceCtorEq] at hd
    | some operation =>
        simp only [hcode, Except.ok.injEq] at hd
        subst hd
        refine ⟨(bytes.drop 13).take reservedLength, ?_, ?_⟩
        · simp only [List.length_take, List.length_drop, reservedLength]
          simp only [headerLength] at hlen
          omega
        · have hsplit := eq_append_of_headerLength_le hlen
          rw [Operation.code_of_ofCode? hcode] at hsplit
          rw [Header.bytes, littleEndian_destination, littleEndian_word]
          · exact hsplit
          · simp only [List.length_take, List.length_drop]
            simp only [headerLength] at hlen
            omega
          · simp only [List.length_take, List.length_drop]
            simp only [headerLength] at hlen
            omega

/-- The header, with any reserved bytes, then the body, then anything. -/
def Command.IsWrittenIn (c : Command) (body : List UInt8) (bytes : List UInt8) : Prop :=
  ∃ reserved suffix, reserved.length = reservedLength ∧
    bytes = c.header.bytes reserved ++ (body ++ suffix)

theorem toNat_dataSize {c : Command} (h : c.payload.length ≤ maxPayload) :
    c.dataSize.toNat = c.payload.length := by
  have hlt : c.payload.length < UInt32.size := Nat.lt_of_le_of_lt h (by decide)
  exact UInt32.toNat_ofNat_of_lt' hlt

theorem decode_of_decodeHeader {bytes : List UInt8} {h : Header}
    (hd : decodeHeader bytes = .ok h) :
    decode bytes =
      if bytes.length < headerLength + h.dataSize.toNat then
        .error (.sizeMismatch (headerLength + h.dataSize.toNat) bytes.length)
      else .ok (Command.of h.operation h.destination
        ((bytes.drop headerLength).take h.dataSize.toNat)) := by
  simp only [decode, hd, bind, Except.bind, pure, Except.pure, throw, throwThe,
    MonadExceptOf.throw]

theorem decodeFramed_of_decodeHeader {bytes : List UInt8} {h : Header}
    (hd : decodeHeader bytes = .ok h) :
    decodeFramed bytes =
      let payloadEnd := headerLength + h.dataSize.toNat
      let payload := (bytes.drop headerLength).take h.dataSize.toNat
      let expected := UInt32.ofNat (ofLittleEndian ((bytes.drop payloadEnd).take checksumLength))
      if bytes.length < payloadEnd + checksumLength then
        .error (.sizeMismatch (payloadEnd + checksumLength) bytes.length)
      else if expected = checksum payload then
        .ok ⟨h.operation, h.destination, expected, payload⟩
      else .error (.checksumMismatch expected (checksum payload)) := by
  simp only [decodeFramed, hd, bind, Except.bind, pure, Except.pure, throw, throwThe,
    MonadExceptOf.throw]

theorem header_eq_of_length {h : Header} {c : Command} (hop : c.operation = h.operation)
    (hdst : c.destination = h.destination) (hsize : c.payload.length = h.dataSize.toNat) :
    c.header = h := by
  cases h
  simp only [Command.header, Command.dataSize, hop, hdst, hsize, UInt32.ofNat_toNat]

theorem decode_eq_ok_iff (bytes : List UInt8) (c : Command) :
    decode bytes = .ok c ↔
      c.IsIntact ∧ c.payload.length ≤ maxPayload ∧ c.IsWrittenIn c.payload bytes := by
  constructor
  · intro hok
    cases hd : decodeHeader bytes with
    | error e => simp [decode, hd, bind, Except.bind] at hok
    | ok h =>
        obtain ⟨reserved, hr, hbytes⟩ := bytes_append_of_decodeHeader hd
        rw [decode_of_decodeHeader hd] at hok
        split at hok
        · cases hok
        · rename_i hlong
          cases hok
          have hlen : ((bytes.drop headerLength).take h.dataSize.toNat).length =
              h.dataSize.toNat := by
            simp only [List.length_take, List.length_drop]
            omega
          refine ⟨Command.isIntact_of _ _ _, ?_, reserved,
            (bytes.drop headerLength).drop h.dataSize.toNat, hr, ?_⟩
          · have := h.dataSize.toNat_lt
            simp only [Command.of, hlen, maxPayload, UInt32.size]
            omega
          · rw [header_eq_of_length (h := h) rfl rfl hlen]
            simpa only [Command.of, List.take_append_drop] using hbytes
  · rintro ⟨hintact, hmax, reserved, suffix, hr, rfl⟩
    have hlen := c.header.length_bytes hr
    have hsize : c.header.dataSize.toNat = c.payload.length := toNat_dataSize hmax
    rw [decode_of_decodeHeader (decodeHeader_bytes_append c.header hr _), hsize, if_neg]
    · rw [List.drop_left' hlen, List.take_left' rfl]
      exact congrArg _ (Command.withFreshChecksum_of_isIntact hintact)
    · simp only [List.length_append, hlen]
      omega

theorem decodeFramed_eq_ok_iff (bytes : List UInt8) (c : Command) :
    decodeFramed bytes = .ok c ↔
      c.IsIntact ∧ c.payload.length ≤ maxPayload ∧
        c.IsWrittenIn (c.payload ++ littleEndian 4 c.checksum.toNat) bytes := by
  constructor
  · intro hok
    cases hd : decodeHeader bytes with
    | error e => simp [decodeFramed, hd, bind, Except.bind] at hok
    | ok h =>
        obtain ⟨reserved, hr, hbytes⟩ := bytes_append_of_decodeHeader hd
        rw [decodeFramed_of_decodeHeader hd] at hok
        dsimp only at hok
        split at hok
        · cases hok
        · rename_i hlong
          split at hok
          · rename_i hsum
            cases hok
            have hlen : ((bytes.drop headerLength).take h.dataSize.toNat).length =
                h.dataSize.toNat := by
              simp only [List.length_take, List.length_drop]
              omega
            refine ⟨hsum, ?_, reserved,
              (bytes.drop (headerLength + h.dataSize.toNat)).drop checksumLength, hr, ?_⟩
            · have := h.dataSize.toNat_lt
              simp only [hlen, maxPayload, UInt32.size]
              omega
            · rw [header_eq_of_length (h := h) rfl rfl hlen, littleEndian_word,
                List.append_assoc, List.take_append_drop, ← List.drop_drop,
                List.take_append_drop]
              · exact hbytes
              · simp only [List.length_take, List.length_drop]
                simp only [checksumLength] at hlong ⊢
                omega
          · cases hok
  · rintro ⟨hintact, hmax, reserved, suffix, hr, rfl⟩
    have hlen := c.header.length_bytes hr
    have hsize : c.header.dataSize.toNat = c.payload.length := toNat_dataSize hmax
    have hsum : c.checksum = checksum c.payload := hintact
    have htrailer : (littleEndian 4 c.checksum.toNat ++ suffix).take checksumLength =
        littleEndian 4 c.checksum.toNat := List.take_left' (length_littleEndian 4 _)
    rw [decodeFramed_of_decodeHeader (decodeHeader_bytes_append c.header hr _), hsize]
    dsimp only
    rw [if_neg, ← List.drop_drop, List.drop_left' hlen, List.append_assoc, List.take_left' rfl,
      List.drop_left' rfl, htrailer, ofLittleEndian_word, if_pos hsum]
    · rfl
    · simp only [List.length_append, hlen, length_littleEndian, checksumLength]
      omega

theorem take_bytes_append (h : Header) (reserved body : List UInt8) :
    (h.bytes reserved ++ body).take 13 =
      h.operation.code :: (littleEndian 8 h.destination.toNat ++
        littleEndian 4 h.dataSize.toNat) := by
  rw [Header.bytes, List.cons_append, List.append_assoc, List.take_succ_cons,
    List.take_left' (by simp)]

def withReserved (reserved wire : List UInt8) : List UInt8 :=
  wire.take 13 ++ reserved ++ wire.drop headerLength

def AgreeOutsideReserved (a b : List UInt8) : Prop :=
  a.length = b.length ∧ ∀ i, i < 13 ∨ headerLength ≤ i → a[i]? = b[i]?

theorem withReserved_bytes_append (h : Header) {old new : List UInt8}
    (hold : old.length = reservedLength) (body : List UInt8) :
    withReserved new (h.bytes old ++ body) = h.bytes new ++ body := by
  rw [withReserved, take_bytes_append, List.drop_left' (h.length_bytes hold)]
  simp [Header.bytes]

theorem agreeOutsideReserved_bytes_append (h : Header) {reserved reserved' : List UInt8}
    (hr : reserved.length = reservedLength) (hr' : reserved'.length = reservedLength)
    (body : List UInt8) :
    AgreeOutsideReserved (h.bytes reserved ++ body) (h.bytes reserved' ++ body) := by
  have hlen := h.length_bytes hr
  have hlen' := h.length_bytes hr'
  refine ⟨by simp only [List.length_append, hlen, hlen'], ?_⟩
  rintro i (hi | hi)
  · rw [← List.getElem?_take_of_lt hi, take_bytes_append, ← take_bytes_append h reserved' body,
      List.getElem?_take_of_lt hi]
  · rw [List.getElem?_append_right (by omega), List.getElem?_append_right (by omega), hlen, hlen']

/-- A writer and a reader of commands that are inverse to each other over the whole format: whatever
the reserved bytes are, and whatever follows the `length` bytes of the written form. -/
structure InverseOnWire (write : Command → Except CodecError (List UInt8))
    (read : List UInt8 → Except CodecError Command) (length : Command → Nat) : Prop where
  read_write : ∀ (c : Command) (reserved suffix : List UInt8), c.IsIntact →
    c.payload.length ≤ 2 ^ 32 - 1 → reserved.length = reservedLength →
      ∃ wire, write c = .ok wire ∧ read (withReserved reserved wire ++ suffix) = .ok c
  write_read : ∀ (bytes : List UInt8) (c : Command), read bytes = .ok c →
    c.IsIntact ∧ ∃ wire, write c = .ok wire ∧ wire.length = length c ∧
      AgreeOutsideReserved (bytes.take (length c)) wire
  write_fails_iff : ∀ c : Command, (∃ e, write c = .error e) ↔ 2 ^ 32 - 1 < c.payload.length

theorem inverseOnWire_of_body {write : Command → Except CodecError (List UInt8)}
    {read : List UInt8 → Except CodecError Command} (body : Command → List UInt8)
    (hwrite : ∀ c, write c =
      if c.payload.length > maxPayload then .error (.payloadTooLarge c.payload.length)
      else .ok (encodeHeader c ++ body c))
    (hread : ∀ bytes c, read bytes = .ok c ↔
      c.IsIntact ∧ c.payload.length ≤ maxPayload ∧ c.IsWrittenIn (body c) bytes) :
    InverseOnWire write read fun c => headerLength + (body c).length where
  read_write c reserved suffix hintact hmax hr := by
    refine ⟨encodeHeader c ++ body c, ?_, ?_⟩
    · exact (hwrite c).trans (if_neg (Nat.not_lt.mpr hmax))
    · rw [encodeHeader_eq, withReserved_bytes_append _ (List.length_replicate ..), hread]
      exact ⟨hintact, hmax, reserved, suffix, hr, List.append_assoc ..⟩
  write_read bytes c hok := by
    obtain ⟨hintact, hmax, reserved, suffix, hr, rfl⟩ := (hread bytes c).mp hok
    have hlen := c.header.length_bytes hr
    have hzero : (List.replicate reservedLength (0 : UInt8)).length = reservedLength :=
      List.length_replicate ..
    refine ⟨hintact, encodeHeader c ++ body c, ?_, ?_, ?_⟩
    · exact (hwrite c).trans (if_neg (Nat.not_lt.mpr hmax))
    · rw [encodeHeader_eq, List.length_append, c.header.length_bytes hzero]
    · rw [← List.append_assoc, List.take_left' (by rw [List.length_append, hlen]),
        encodeHeader_eq]
      exact agreeOutsideReserved_bytes_append c.header hr hzero (body c)
  write_fails_iff c := by
    rw [hwrite]
    constructor
    · rintro ⟨e, he⟩
      by_cases hmax : c.payload.length > maxPayload
      · exact hmax
      · rw [if_neg hmax] at he
        cases he
    · intro hmax
      exact ⟨.payloadTooLarge c.payload.length, if_pos hmax⟩

theorem isWrittenIn_encodeHeader_append (c : Command) (body : List UInt8) :
    c.IsWrittenIn body (encodeHeader c ++ body) :=
  ⟨List.replicate reservedLength 0, [], List.length_replicate .., by
    rw [encodeHeader_eq, List.append_nil]⟩

theorem exists_encodeFramed_withFreshChecksum_eq {c : Command}
    (hc : c.payload.length < 2 ^ 32) :
    ∃ frame, encodeFramed c.withFreshChecksum = .ok frame ∧
      decodeFramed frame = .ok c.withFreshChecksum := by
  have hmax : c.withFreshChecksum.payload.length ≤ maxPayload := Nat.le_pred_of_lt hc
  have hintact : c.withFreshChecksum.IsIntact :=
    Command.isIntact_of c.operation c.destination c.payload
  refine ⟨_, if_neg (Nat.not_lt.mpr hmax), (decodeFramed_eq_ok_iff _ _).mpr ⟨hintact, hmax, ?_⟩⟩
  rw [List.append_assoc]
  exact isWrittenIn_encodeHeader_append _ _

/-- Frames, and the bare form, are read exactly where they were written. -/
theorem inverseOnWire_framed_and_bare :
    InverseOnWire encodeFramed decodeFramed Command.framedLength ∧
      InverseOnWire encode decode fun c => headerLength + c.payload.length := by
  constructor
  · let body (c : Command) := c.payload ++ littleEndian 4 c.checksum.toNat
    have hwrite (c : Command) : encodeFramed c =
        if c.payload.length > maxPayload then .error (.payloadTooLarge c.payload.length)
        else .ok (encodeHeader c ++ body c) := by
      simp only [encodeFramed, body, List.append_assoc]
    have hlength : Command.framedLength = fun c => headerLength + (body c).length := by
      funext c
      simp only [Command.framedLength, body, List.length_append, length_littleEndian,
        checksumLength, Nat.add_assoc]
    rw [hlength]
    exact inverseOnWire_of_body body hwrite decodeFramed_eq_ok_iff
  · exact inverseOnWire_of_body Command.payload (fun c => rfl) decode_eq_ok_iff

theorem inverseOnWire_three_bytes :
    (Command.copy 0x40 [1, 2, 3]).IsIntact ∧ (List.replicate 19 (7 : UInt8)).length = 19 ∧
      (∃ frame, encodeFramed (Command.copy 0x40 [1, 2, 3]) = .ok frame ∧
        decodeFramed (withReserved (List.replicate 19 7) frame ++ [8, 9]) =
          .ok (Command.copy 0x40 [1, 2, 3])) ∧
      ∃ bare, encode (Command.copy 0x40 [1, 2, 3]) = .ok bare ∧
        decode (withReserved (List.replicate 19 7) bare ++ [8, 9]) =
          .ok (Command.copy 0x40 [1, 2, 3]) :=
  ⟨rfl, rfl,
    inverseOnWire_framed_and_bare.1.read_write (Command.copy 0x40 [1, 2, 3]) _ [8, 9] rfl
      (by decide) rfl,
    inverseOnWire_framed_and_bare.2.read_write (Command.copy 0x40 [1, 2, 3]) _ [8, 9] rfl
      (by decide) rfl⟩

end NumaFabric.Wire
