import NumaFabric.Proofs.Wire.Register
import NumaFabric.Proofs.Wire.RoundTrip
/-!
What the checksum of a frame notices. Payload and trailer leave the same constant in the register of
every intact frame, and flipped bits that lie close together leave another. Main statement: a frame
that has such a burst behind its header is refused for its checksum.
-/

namespace NumaFabric.Wire

variable {flips : Nat → Bool}

def flipMask (flips : Nat → Bool) : UInt8 := UInt8.ofNat (bitsValue ((List.range 8).map flips))

/-- The bytes with some of their bits flipped. The bits have numbers, from the lowest one of the
first byte on. -/
def flipBits (flips : Nat → Bool) (bytes : List UInt8) : List UInt8 :=
  bytes.mapIdx fun i b => b ^^^ flipMask fun j => flips (8 * i + j)

theorem flipBits_append (bytes bytes' : List UInt8) :
    flipBits flips (bytes ++ bytes') =
      flipBits flips bytes ++ flipBits (fun k => flips (8 * bytes.length + k)) bytes' := by
  simp only [flipBits, List.mapIdx_append, Nat.mul_add, Nat.add_assoc, Nat.add_left_comm]

theorem flipBits_cons (b : UInt8) (bytes : List UInt8) :
    flipBits flips (b :: bytes) =
      (b ^^^ flipMask flips) :: flipBits (fun k => flips (8 + k)) bytes := by
  rw [← List.singleton_append, flipBits_append]
  simp [flipBits]

@[simp] theorem length_flipBits (bytes : List UInt8) :
    (flipBits flips bytes).length = bytes.length := List.length_mapIdx

theorem map_range_eq_replicate {length : Nat} (h : ∀ k < length, flips k = false) :
    (List.range length).map flips = List.replicate length false := by
  rw [List.eq_replicate_iff]
  refine ⟨by simp, ?_⟩
  intro b hb
  obtain ⟨k, hk, rfl⟩ := List.mem_map.mp hb
  exact h k (List.mem_range.mp hk)

theorem flipBits_eq_self {bytes : List UInt8} (h : ∀ k < 8 * bytes.length, flips k = false) :
    flipBits flips bytes = bytes := by
  induction bytes generalizing flips with
  | nil => rfl
  | cons b bytes ih =>
      rw [List.length_cons] at h
      have hmask : flipMask flips = 0 := by
        rw [flipMask, map_range_eq_replicate]
        · decide
        · intro k hk
          exact h k (by omega)
      rw [flipBits_cons, hmask, UInt8.xor_zero, ih]
      intro k hk
      exact h (8 + k) (by omega)

theorem testBit_flipMask {k : Nat} (hk : k < 8) : (flipMask flips).toNat.testBit k = flips k := by
  have hlt : bitsValue ((List.range 8).map flips) < UInt8.size := by
    simpa using bitsValue_lt ((List.range 8).map flips)
  rw [flipMask, UInt8.toNat_ofNat_of_lt' hlt, testBit_bitsValue]
  simp [List.getD_eq_getElem?_getD, hk]

theorem byteBits_xor_flipMask (b : UInt8) :
    byteBits (b ^^^ flipMask flips) = List.zipWith xor (byteBits b) ((List.range 8).map flips) := by
  rw [byteBits, byteBits, List.zipWith_map, List.zipWith_self]
  apply List.map_congr_left
  intro k hk
  rw [UInt8.toNat_xor, Nat.testBit_xor, testBit_flipMask (List.mem_range.mp hk)]

theorem bitsOf_flipBits (flips : Nat → Bool) (bytes : List UInt8) :
    bitsOf (flipBits flips bytes) =
      List.zipWith xor (bitsOf bytes) ((List.range (8 * bytes.length)).map flips) := by
  induction bytes generalizing flips with
  | nil => rfl
  | cons b bytes ih =>
      have hrange : (List.range (8 * (b :: bytes).length)).map flips = (List.range 8).map flips ++
          (List.range (8 * bytes.length)).map fun k => flips (8 + k) := by
        rw [List.length_cons, Nat.mul_succ, Nat.add_comm, List.range_add, List.map_append,
          List.map_map]
        rfl
      rw [flipBits_cons, hrange, bitsOf_cons, ih, byteBits_xor_flipMask, bitsOf_cons,
        List.zipWith_append]
      rw [length_byteBits, List.length_map, List.length_range]

/-- Flipping bits adds to the register what these bits alone leave in an empty one. -/
theorem foldl_crcByte_flipBits (flips : Nat → Bool) (bytes : List UInt8) (r : UInt32) :
    (flipBits flips bytes).foldl crcByte r =
      bytes.foldl crcByte r ^^^ feed 0 ((List.range (8 * bytes.length)).map flips) := by
  have hlength : (bitsOf bytes).length = ((List.range (8 * bytes.length)).map flips).length := by
    rw [length_bitsOf, List.length_map, List.length_range]
  rw [foldl_crcByte_eq_feed, foldl_crcByte_eq_feed, bitsOf_flipBits, ← feed_xor hlength,
    UInt32.xor_zero]

/-- At least one bit is flipped, all of them are between two numbers, and they lie within 32 bits. -/
structure IsBurst (flips : Nat → Bool) (first last : Nat) : Prop where
  nonempty : ∃ k, flips k = true
  inside : ∀ k, flips k = true → first ≤ k ∧ k < last
  short : ∃ start, ∀ k, flips k = true → start ≤ k ∧ k < start + 32

theorem IsBurst.shift {offset length : Nat} (h : IsBurst flips offset (offset + length)) :
    IsBurst (fun k => flips (offset + k)) 0 length := by
  constructor
  · obtain ⟨k, hk⟩ := h.nonempty
    have hinside := h.inside k hk
    refine ⟨k - offset, ?_⟩
    rwa [Nat.add_sub_cancel' hinside.1]
  · intro k hk
    have hinside := h.inside (offset + k) hk
    omega
  · obtain ⟨start, hshort⟩ := h.short
    refine ⟨start - offset, fun k hk => ?_⟩
    have := hshort (offset + k) hk
    omega

theorem IsBurst.exists_map_range_eq {length : Nat} (h : IsBurst flips 0 length) :
    ∃ before bits after, bits.length ≤ 32 ∧ true ∈ bits ∧ (List.range length).map flips =
      List.replicate before false ++ bits ++ List.replicate after false := by
  obtain ⟨k, hk⟩ := h.nonempty
  obtain ⟨start, hshort⟩ := h.short
  have hinside := h.inside k hk
  have hwindow := hshort k hk
  -- the window may reach over the end, so its width is cut there
  obtain ⟨width, after, hwidth, hreach, rfl⟩ :
      ∃ width after, width ≤ 32 ∧ (∀ k, flips k = true → k < start + width) ∧
        length = start + width + after := by
    refine ⟨min 32 (length - start), length - start - min 32 (length - start), by omega, ?_, by omega⟩
    intro k hk
    have := h.inside k hk
    have := hshort k hk
    omega
  have hbefore : (List.range start).map flips = List.replicate start false := by
    apply map_range_eq_replicate
    intro k hk
    apply Bool.eq_false_of_not_eq_true
    intro hset
    have := hshort k hset
    omega
  have hafter : (List.range after).map (fun k => flips (start + width + k)) =
      List.replicate after false := by
    apply map_range_eq_replicate
    intro k hk
    apply Bool.eq_false_of_not_eq_true
    intro hset
    have := hreach _ hset
    omega
  refine ⟨start, (List.range width).map fun k => flips (start + k), after, ?_, ?_, ?_⟩
  · simpa using hwidth
  · have hlt := hreach k hk
    refine List.mem_map.mpr ⟨k - start, List.mem_range.mpr (by omega), ?_⟩
    rwa [Nat.add_sub_cancel' hwindow.1]
  · rw [← hbefore, ← hafter, List.range_add, List.range_add, List.map_append, List.map_append,
      List.map_map, List.map_map]
    rfl

theorem foldl_crcByte_flipBits_ne {bytes : List UInt8} (h : IsBurst flips 0 (8 * bytes.length))
    (r : UInt32) : (flipBits flips bytes).foldl crcByte r ≠ bytes.foldl crcByte r := by
  obtain ⟨before, bits, after, hlength, hset, hpattern⟩ := h.exists_map_range_eq
  rw [foldl_crcByte_flipBits, hpattern]
  intro hsame
  apply feed_ne_zero before after hlength hset
  exact (UInt32.xor_right_inj _).mp (hsame.trans UInt32.xor_zero.symm)

/-! The constant of intact frames. -/

def crcResidue : UInt32 := 0xdebb20e3

theorem iterate_crcBit_ones : crcBit^[32] 0xffffffff = crcResidue := by decide +kernel

theorem foldl_crcByte_trailer {trailer : List UInt8} (h : trailer.length = checksumLength)
    (r : UInt32) : trailer.foldl crcByte r =
      crcBit^[32] (r ^^^ UInt32.ofNat (ofLittleEndian trailer)) := by
  have hbits : (bitsOf trailer).length = 32 := by rw [length_bitsOf, h]; rfl
  rw [foldl_crcByte_eq_feed, feed_eq r hbits.le, hbits, bitsValue_bitsOf]

/-- A trailer holds the checksum of a payload if both leave the constant in the register. -/
theorem eq_checksum_iff {trailer : List UInt8} (h : trailer.length = checksumLength)
    (payload : List UInt8) :
    UInt32.ofNat (ofLittleEndian trailer) = checksum payload ↔
      (payload ++ trailer).foldl crcByte 0xffffffff = crcResidue := by
  have hones : (0xffffffff : UInt32) = ~~~0 := rfl
  rw [foldl_crcByte_append, foldl_crcByte_trailer h, ← iterate_crcBit_ones, iterate_crcBit_inj,
    checksum]
  generalize payload.foldl crcByte 0xffffffff = r
  constructor
  · intro hsum
    rw [hsum, UInt32.xor_not, UInt32.xor_self, hones]
  · intro hones'
    rw [← UInt32.xor_right_inj r, hones', UInt32.xor_not, UInt32.xor_self, hones]

theorem decodeFramed_bytes_append (h : Header) {reserved payload trailer : List UInt8}
    (hr : reserved.length = reservedLength) (hpayload : payload.length = h.dataSize.toNat)
    (htrailer : trailer.length = checksumLength) (suffix : List UInt8) :
    decodeFramed (h.bytes reserved ++ (payload ++ trailer ++ suffix)) =
      let expected := UInt32.ofNat (ofLittleEndian trailer)
      if expected = checksum payload then .ok ⟨h.operation, h.destination, expected, payload⟩
      else .error (.checksumMismatch expected (checksum payload)) := by
  have hlen := h.length_bytes hr
  rw [decodeFramed_of_decodeHeader (decodeHeader_bytes_append h hr _)]
  dsimp only
  rw [if_neg, ← List.drop_drop, List.drop_left' hlen, List.append_assoc, List.take_left' hpayload,
    List.drop_left' hpayload, List.take_left' htrailer]
  simp only [List.length_append, hlen, hpayload, htrailer]
  omega

/-- A burst of flipped bits in the payload and the trailer of a frame is noticed. -/
theorem checksumMismatch_of_isBurst {c : Command} {frame : List UInt8} (hintact : c.IsIntact)
    (hframe : encodeFramed c = .ok frame)
    (hburst : IsBurst flips (8 * headerLength) (8 * frame.length)) (suffix : List UInt8) :
    ∃ expected actual, decodeFramed (flipBits flips frame ++ suffix) =
      .error (.checksumMismatch expected actual) := by
  rw [encodeFramed] at hframe
  split at hframe
  · cases hframe
  rename_i hmax
  cases hframe
  let trailer := littleEndian 4 c.checksum.toNat
  have hzero : (List.replicate reservedLength (0 : UInt8)).length = reservedLength :=
    List.length_replicate ..
  have hlen := c.header.length_bytes hzero
  have hsize : c.payload.length = c.header.dataSize.toNat :=
    (toNat_dataSize (Nat.not_lt.mp hmax)).symm
  have htrailer : trailer.length = checksumLength := length_littleEndian ..
  rw [encodeHeader_eq, List.append_assoc] at hburst ⊢
  -- the header stays as it is, and the bits behind it are those of a shorter text
  rw [List.length_append, hlen, Nat.mul_add] at hburst
  have hheader : ∀ k < 8 * (c.header.bytes (List.replicate reservedLength 0)).length,
      flips k = false := by
    intro k hk
    apply Bool.eq_false_of_not_eq_true
    intro hset
    have := hburst.inside k hset
    omega
  rw [flipBits_append, flipBits_eq_self hheader, hlen]
  have hne := foldl_crcByte_flipBits_ne hburst.shift 0xffffffff
  rw [(eq_checksum_iff htrailer c.payload).mp ?intact] at hne
  case intact =>
    rw [ofLittleEndian_word]
    exact hintact
  obtain ⟨payload, trailer', hbody, hpayload', htrailer'⟩ :
      ∃ payload trailer', flipBits (fun k => flips (8 * headerLength + k)) (c.payload ++ trailer) =
        payload ++ trailer' ∧ payload.length = c.header.dataSize.toNat ∧
          trailer'.length = checksumLength := by
    refine ⟨_, _, flipBits_append .., ?_, ?_⟩
    · rw [length_flipBits, hsize]
    · rw [length_flipBits, htrailer]
  rw [hbody] at hne ⊢
  rw [List.append_assoc, decodeFramed_bytes_append c.header hzero hpayload' htrailer']
  refine ⟨_, _, if_neg ?_⟩
  rwa [eq_checksum_iff htrailer']

theorem checksumMismatch_of_isBurst_straddling :
    (Command.copy 0x40 [1, 2, 3]).IsIntact ∧ ∃ frame,
      encodeFramed (Command.copy 0x40 [1, 2, 3]) = .ok frame ∧
      IsBurst (fun k => k == 279 || k == 280) (8 * headerLength) (8 * frame.length) ∧
      ∃ expected actual, decodeFramed (flipBits (fun k => k == 279 || k == 280) frame ++ [9]) =
        .error (.checksumMismatch expected actual) := by
  have hburst : IsBurst (fun k => k == 279 || k == 280) (8 * headerLength) (8 * 39) := by
    refine ⟨⟨279, rfl⟩, ?_, 279, ?_⟩
    · intro k hk
      simp at hk
      simp only [headerLength]
      omega
    · intro k hk
      simp at hk
      omega
  have hintact : (Command.copy 0x40 [1, 2, 3]).IsIntact := rfl
  exact ⟨hintact, _, rfl, hburst, checksumMismatch_of_isBurst hintact rfl hburst [9]⟩

end NumaFabric.Wire
