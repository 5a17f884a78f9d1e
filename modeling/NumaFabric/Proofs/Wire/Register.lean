import Mathlib.Data.List.Basic
import Mathlib.Data.Nat.Bitwise
import Mathlib.Logic.Function.Iterate
import Mathlib.Tactic.Ring
import NumaFabric.Wire.Checksum
import NumaFabric.Wire.WordLemmas
/-!
The register of the checksum, bit by bit. A step of the register is linear in exclusive or and loses
nothing, and up to 32 bits that are read leave what so many steps make of the register and the word
of those bits. Main statement: bits that are not all zero, and that lie close together, lead from an
empty register to one that is not empty.
-/

namespace NumaFabric.Wire

/-! Bits, the lowest one of each byte first. -/

def bitsValue : List Bool → Nat
  | [] => 0
  | b :: bits => b.toNat + 2 * bitsValue bits

def byteBits (b : UInt8) : List Bool := (List.range 8).map b.toNat.testBit

def bitsOf (bytes : List UInt8) : List Bool := bytes.flatMap byteBits

theorem bitsValue_append (bits bits' : List Bool) :
    bitsValue (bits ++ bits') = bitsValue bits + 2 ^ bits.length * bitsValue bits' := by
  induction bits with
  | nil => simp [bitsValue]
  | cons b bits ih =>
      simp only [List.cons_append, bitsValue, ih, List.length_cons, pow_succ]
      ring

theorem bitsValue_lt (bits : List Bool) : bitsValue bits < 2 ^ bits.length := by
  induction bits with
  | nil => simp [bitsValue]
  | cons b bits ih =>
      have hb : b.toNat ≤ 1 := Bool.toNat_le b
      simp only [bitsValue, List.length_cons, pow_succ]
      omega

theorem testBit_bitsValue (bits : List Bool) (i : Nat) :
    (bitsValue bits).testBit i = bits.getD i false := by
  induction bits generalizing i with
  | nil => simp [bitsValue]
  | cons b bits ih =>
      cases i with
      | zero => cases b <;> simp [bitsValue, Nat.testBit_zero]
      | succ i =>
          have hhalf : (b.toNat + 2 * bitsValue bits) / 2 = bitsValue bits := by
            have hb : b.toNat ≤ 1 := Bool.toNat_le b
            omega
          rw [bitsValue, Nat.testBit_succ, hhalf, ih, List.getD_cons_succ]

theorem bitsValue_testBits (n width : Nat) :
    bitsValue ((List.range width).map n.testBit) = n % 2 ^ width := by
  apply Nat.eq_of_testBit_eq
  intro i
  rw [testBit_bitsValue, Nat.testBit_mod_two_pow]
  by_cases hi : i < width
  · simp [hi, List.getD_eq_getElem?_getD]
  · simp [hi, List.getD_eq_getElem?_getD]

theorem length_byteBits (b : UInt8) : (byteBits b).length = 8 := by
  simp [byteBits]

theorem bitsValue_byteBits (b : UInt8) : bitsValue (byteBits b) = b.toNat := by
  rw [byteBits, bitsValue_testBits, Nat.mod_eq_of_lt b.toNat_lt]

theorem bitsOf_cons (b : UInt8) (bytes : List UInt8) :
    bitsOf (b :: bytes) = byteBits b ++ bitsOf bytes := List.flatMap_cons

theorem length_bitsOf (bytes : List UInt8) : (bitsOf bytes).length = 8 * bytes.length := by
  induction bytes with
  | nil => rfl
  | cons b bytes ih =>
      rw [bitsOf_cons, List.length_append, length_byteBits, ih, List.length_cons]
      omega

theorem bitsValue_bitsOf (bytes : List UInt8) : bitsValue (bitsOf bytes) = ofLittleEndian bytes := by
  induction bytes with
  | nil => rfl
  | cons b bytes ih =>
      rw [bitsOf_cons, bitsValue_append, length_byteBits, bitsValue_byteBits, ih]
      rfl

/-! One step of the register. -/

theorem and_one_eq_one_iff (r : UInt32) : r &&& 1 = 1 ↔ r.toNat % 2 = 1 := by
  rw [← UInt32.toNat_inj, UInt32.toNat_and]
  change r.toNat &&& 1 = 1 ↔ _
  rw [Nat.and_one_is_mod]

theorem crcBit_xor (r r' : UInt32) : crcBit (r ^^^ r') = crcBit r ^^^ crcBit r' := by
  have hparity : (r ^^^ r').toNat % 2 = (r.toNat + r'.toNat) % 2 := by
    rw [UInt32.toNat_xor, Nat.xor_mod_two_eq]
  simp only [crcBit, and_one_eq_one_iff, hparity, UInt32.shiftRight_xor]
  rcases Nat.mod_two_eq_zero_or_one r.toNat with hr | hr <;>
    rcases Nat.mod_two_eq_zero_or_one r'.toNat with hr' | hr' <;>
    simp only [hr, hr', Nat.add_mod, Nat.reduceAdd, Nat.reduceMod, if_true, if_false, Nat.zero_ne_one]
  · rw [UInt32.xor_assoc]
  · rw [UInt32.xor_assoc, UInt32.xor_assoc, UInt32.xor_comm crcPolynomial]
  · rw [UInt32.xor_assoc, ← UInt32.xor_assoc crcPolynomial, UInt32.xor_comm crcPolynomial,
      UInt32.xor_assoc, UInt32.xor_self, UInt32.xor_zero]

theorem toNat_shiftRight_one (r : UInt32) : (r >>> 1).toNat = r.toNat / 2 := by
  rw [UInt32.toNat_shiftRight]
  change r.toNat >>> 1 = _
  rw [Nat.shiftRight_eq_div_pow, Nat.pow_one]

theorem crcBit_eq_zero_iff (r : UInt32) : crcBit r = 0 ↔ r = 0 := by
  have hlt := r.toNat_lt
  constructor
  · intro h
    rw [crcBit] at h
    split at h
    · rename_i hodd
      rw [UInt32.xor_eq_zero_iff] at h
      have hhalf : r.toNat / 2 = crcPolynomial.toNat := by rw [← toNat_shiftRight_one, h]
      have hpolynomial : crcPolynomial.toNat = 0xedb88320 := rfl
      omega
    · rename_i heven
      rw [and_one_eq_one_iff] at heven
      have hhalf : r.toNat / 2 = 0 := by rw [← toNat_shiftRight_one, h]; rfl
      apply UInt32.toNat_inj.mp
      change r.toNat = 0
      omega
  · rintro rfl
    decide

theorem crcBit_of_even {n : Nat} (h : 2 * n < 2 ^ 32) :
    crcBit (UInt32.ofNat (2 * n)) = UInt32.ofNat n := by
  have hn : (UInt32.ofNat (2 * n)).toNat = 2 * n := UInt32.toNat_ofNat_of_lt' h
  have hhalf : (UInt32.ofNat n).toNat = n :=
    UInt32.toNat_ofNat_of_lt' (by simp only [UInt32.size]; omega)
  rw [crcBit, if_neg]
  · apply UInt32.toNat_inj.mp
    rw [toNat_shiftRight_one, hn, hhalf]
    omega
  · rw [and_one_eq_one_iff, hn]
    omega

/-! Several steps. -/

theorem iterate_crcBit_xor (n : Nat) (r r' : UInt32) :
    crcBit^[n] (r ^^^ r') = crcBit^[n] r ^^^ crcBit^[n] r' := by
  induction n generalizing r r' with
  | zero => rfl
  | succ n ih => rw [Function.iterate_succ_apply, crcBit_xor, ih]; rfl

theorem iterate_crcBit_eq_zero_iff (n : Nat) (r : UInt32) : crcBit^[n] r = 0 ↔ r = 0 := by
  induction n generalizing r with
  | zero => rfl
  | succ n ih => rw [Function.iterate_succ_apply, ih, crcBit_eq_zero_iff]

theorem iterate_crcBit_inj (n : Nat) {r r' : UInt32} : crcBit^[n] r = crcBit^[n] r' ↔ r = r' := by
  rw [← UInt32.xor_eq_zero_iff, ← iterate_crcBit_xor, iterate_crcBit_eq_zero_iff,
    UInt32.xor_eq_zero_iff]

/-! Bits that are read. -/

def bitWord (b : Bool) : UInt32 := UInt32.ofNat b.toNat

/-- The register after some bits were added to its low end, each before a step. -/
def feed (r : UInt32) (bits : List Bool) : UInt32 :=
  bits.foldl (fun r b => crcBit (r ^^^ bitWord b)) r

theorem feed_append (r : UInt32) (bits bits' : List Bool) :
    feed r (bits ++ bits') = feed (feed r bits) bits' := List.foldl_append

theorem ofNat_bit_add (b : Bool) (n : Nat) :
    UInt32.ofNat (b.toNat + 2 * n) = bitWord b ^^^ UInt32.ofNat (2 * n) := by
  rw [bitWord, ← UInt32.ofNat_xor]
  congr 1
  cases b with
  | false => simp
  | true =>
      apply Nat.eq_of_testBit_eq
      intro i
      cases i with
      | zero => simp [Nat.testBit_zero, Nat.add_mod]
      | succ i =>
          have hhalf : (1 + 2 * n) / 2 = n := by omega
          simp [Nat.testBit_succ, Nat.xor_div_two, hhalf]

theorem feed_eq (r : UInt32) {bits : List Bool} (h : bits.length ≤ 32) :
    feed r bits = crcBit^[bits.length] (r ^^^ UInt32.ofNat (bitsValue bits)) := by
  induction bits generalizing r with
  | nil => exact UInt32.xor_zero.symm
  | cons b bits ih =>
      rw [List.length_cons] at h
      -- the bits that are still to come are shifted out of the word with nothing lost
      have hlt : 2 * bitsValue bits < 2 ^ 32 := by
        have hvalue := bitsValue_lt bits
        have hpow : 2 ^ bits.length ≤ 2 ^ 31 := Nat.pow_le_pow_right (by decide) (by omega)
        omega
      calc
        feed r (b :: bits) = feed (crcBit (r ^^^ bitWord b)) bits := rfl
        _ = crcBit^[bits.length] (crcBit (r ^^^ bitWord b) ^^^ UInt32.ofNat (bitsValue bits)) :=
          ih _ (by omega)
        _ = crcBit^[bits.length] (crcBit (r ^^^ UInt32.ofNat (bitsValue (b :: bits)))) := by
          rw [bitsValue, ofNat_bit_add, ← UInt32.xor_assoc, crcBit_xor _ (UInt32.ofNat (2 * _)),
            crcBit_of_even hlt]

theorem feed_xor {bits bits' : List Bool} (h : bits.length = bits'.length) (r r' : UInt32) :
    feed (r ^^^ r') (List.zipWith xor bits bits') = feed r bits ^^^ feed r' bits' := by
  have hbit (b b' : Bool) : bitWord (b ^^ b') = bitWord b ^^^ bitWord b' := by
    cases b <;> cases b' <;> decide
  induction bits generalizing bits' r r' with
  | nil =>
      obtain rfl : bits' = [] := List.eq_nil_of_length_eq_zero h.symm
      rfl
  | cons b bits ih =>
      cases bits' with
      | nil => simp at h
      | cons b' bits' =>
          rw [List.length_cons, List.length_cons, Nat.succ_inj] at h
          have hmix : r ^^^ r' ^^^ (bitWord b ^^^ bitWord b') =
              (r ^^^ bitWord b) ^^^ (r' ^^^ bitWord b') := by
            rw [UInt32.xor_assoc, UInt32.xor_assoc, ← UInt32.xor_assoc r',
              UInt32.xor_comm r', UInt32.xor_assoc]
          calc
            feed (r ^^^ r') (List.zipWith xor (b :: bits) (b' :: bits')) =
                feed (crcBit (r ^^^ bitWord b) ^^^ crcBit (r' ^^^ bitWord b'))
                  (List.zipWith xor bits bits') := by
              rw [← crcBit_xor, ← hmix, ← hbit]
              rfl
            _ = _ := ih h _ _

theorem crcByte_eq_feed (r : UInt32) (b : UInt8) : crcByte r b = feed r (byteBits b) := by
  have hword : UInt32.ofNat b.toNat = b.toUInt32 := by
    apply UInt32.toNat_inj.mp
    have := b.toNat_lt
    rw [UInt8.toNat_toUInt32, UInt32.toNat_ofNat_of_lt' (by simp only [UInt32.size]; omega)]
  rw [feed_eq r (by rw [length_byteBits]; decide), bitsValue_byteBits, hword, length_byteBits]
  rfl

theorem foldl_crcByte_eq_feed (r : UInt32) (bytes : List UInt8) :
    bytes.foldl crcByte r = feed r (bitsOf bytes) := by
  induction bytes generalizing r with
  | nil => rfl
  | cons b bytes ih =>
      rw [List.foldl_cons, ih, crcByte_eq_feed, bitsOf_cons, feed_append]

theorem feed_replicate_false (r : UInt32) (n : Nat) :
    feed r (List.replicate n false) = crcBit^[n] r := by
  induction n generalizing r with
  | zero => rfl
  | succ n ih =>
      calc
        feed r (List.replicate (n + 1) false) =
            feed (crcBit (r ^^^ 0)) (List.replicate n false) := rfl
        _ = crcBit^[n + 1] r := by rw [ih, UInt32.xor_zero]; rfl

/-- Bits between zeros, not all zero and no more than 32, leave something in an empty register. -/
theorem feed_ne_zero {bits : List Bool} (before after : Nat) (hlength : bits.length ≤ 32)
    (hset : true ∈ bits) :
    feed 0 (List.replicate before false ++ bits ++ List.replicate after false) ≠ 0 := by
  have hempty : crcBit^[before] 0 = 0 := (iterate_crcBit_eq_zero_iff before 0).mpr rfl
  rw [feed_append, feed_append, feed_replicate_false, feed_replicate_false, hempty, feed_eq 0 hlength,
    UInt32.zero_xor, Ne, iterate_crcBit_eq_zero_iff, iterate_crcBit_eq_zero_iff]
  intro hzero
  obtain ⟨i, hi, hbit⟩ := List.getElem_of_mem hset
  have hlt : bitsValue bits < 2 ^ 32 :=
    Nat.lt_of_lt_of_le (bitsValue_lt bits) (Nat.pow_le_pow_right (by decide) hlength)
  have hvalue : bitsValue bits = 0 := by
    rw [← UInt32.toNat_ofNat_of_lt' (n := bitsValue bits) hlt, hzero]
    rfl
  have htest := testBit_bitsValue bits i
  rw [hvalue, List.getD_eq_getElem _ _ hi, hbit] at htest
  simp at htest

end NumaFabric.Wire
