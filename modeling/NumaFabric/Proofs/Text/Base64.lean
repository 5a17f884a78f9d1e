import NumaFabric.Text.Base64

namespace NumaFabric.Text

theorem base64Value?_base64Digit {n : Nat} (h : n < 64) : base64Value? (base64Digit n) = some n := by
  have hall : ∀ n < 64, base64Value? (base64Digit n) = some n := by decide
  exact hall n h

theorem base64Digit_ne {n : Nat} (h : n < 64) : base64Digit n ≠ '=' := by
  intro hpadding
  have hvalue := base64Value?_base64Digit h
  rw [hpadding] at hvalue
  cases hvalue

section

variable {a b c d : Char} {x y z w : Nat}

theorem base64Decode?_of_ne (hd : d ≠ '=') (ha : base64Value? a = some x)
    (hb : base64Value? b = some y) (hc : base64Value? c = some z) (hw : base64Value? d = some w)
    (rest : List Char) :
    base64Decode? (a :: b :: c :: d :: rest) =
      (base64Decode? rest).map fun bytes =>
        UInt8.ofNat (x * 4 + y / 16) :: UInt8.ofNat (y % 16 * 16 + z / 4) ::
          UInt8.ofNat (z % 4 * 64 + w) :: bytes := by
  rw [base64Decode?]
  case x_1 => exact fun _ h _ => hd h
  case x_2 => exact fun h _ => hd h
  simp only [ha, hb, hc, hw]

theorem base64Decode?_two_of_ne (hpadding : c ≠ '=') (ha : base64Value? a = some x)
    (hb : base64Value? b = some y) (hc : base64Value? c = some z) (hz : z % 4 = 0) :
    base64Decode? [a, b, c, '='] =
      some [UInt8.ofNat (x * 4 + y / 16), UInt8.ofNat (y % 16 * 16 + z / 4)] := by
  rw [base64Decode?]
  case x_1 => exact hpadding
  simp only [ha, hb, hc, if_pos hz]

theorem base64Decode?_one (ha : base64Value? a = some x) (hb : base64Value? b = some y)
    (hy : y % 16 = 0) : base64Decode? [a, b, '=', '='] = some [UInt8.ofNat (x * 4 + y / 16)] := by
  simp only [base64Decode?, ha, hb, if_pos hy]

end

/-! The bits of bytes, as digits share them out. -/

section

variable (a b c : UInt8)

theorem first_of_digits :
    UInt8.ofNat (a.toNat / 4 * 4 + (a.toNat % 4 * 16 + b.toNat / 16) / 16) = a := by
  have hb := b.toNat_lt
  rw [show a.toNat / 4 * 4 + (a.toNat % 4 * 16 + b.toNat / 16) / 16 = a.toNat by omega]
  exact UInt8.ofNat_toNat

theorem second_of_digits :
    UInt8.ofNat ((a.toNat % 4 * 16 + b.toNat / 16) % 16 * 16 +
      (b.toNat % 16 * 4 + c.toNat / 64) / 4) = b := by
  have hb := b.toNat_lt
  have hc := c.toNat_lt
  rw [show (a.toNat % 4 * 16 + b.toNat / 16) % 16 * 16 +
    (b.toNat % 16 * 4 + c.toNat / 64) / 4 = b.toNat by omega]
  exact UInt8.ofNat_toNat

theorem third_of_digits :
    UInt8.ofNat ((b.toNat % 16 * 4 + c.toNat / 64) % 4 * 64 + c.toNat % 64) = c := by
  have hc := c.toNat_lt
  rw [show (b.toNat % 16 * 4 + c.toNat / 64) % 4 * 64 + c.toNat % 64 = c.toNat by omega]
  exact UInt8.ofNat_toNat

end

theorem base64Decode?_base64Encode (bytes : List UInt8) :
    base64Decode? (base64Encode bytes) = some bytes := by
  fun_induction base64Encode bytes with
  | case1 => rfl
  | case2 a =>
      have ha := a.toNat_lt
      have hfirst := first_of_digits a 0
      rw [base64Decode?_one (base64Value?_base64Digit (by omega))
        (base64Value?_base64Digit (by omega)) (by omega)]
      exact congrArg (fun x => some [x]) hfirst
  | case3 a b =>
      have ha := a.toNat_lt
      have hb := b.toNat_lt
      have hsecond := second_of_digits a b 0
      rw [base64Decode?_two_of_ne (base64Digit_ne (by omega)) (base64Value?_base64Digit (by omega))
        (base64Value?_base64Digit (by omega)) (base64Value?_base64Digit (by omega)) (by omega),
        first_of_digits]
      exact congrArg (fun x => some [a, x]) hsecond
  | case4 a b c rest ih =>
      have ha := a.toNat_lt
      have hb := b.toNat_lt
      have hc := c.toNat_lt
      rw [base64Decode?_of_ne (base64Digit_ne (by omega)) (base64Value?_base64Digit (by omega))
        (base64Value?_base64Digit (by omega)) (base64Value?_base64Digit (by omega))
        (base64Value?_base64Digit (by omega)), ih, first_of_digits, second_of_digits,
        third_of_digits, Option.map_some]

end NumaFabric.Text
