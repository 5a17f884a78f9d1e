import NumaFabric.Text.Numeral

namespace NumaFabric.Text

def hexDigit (n : Nat) : Char := Nat.digitChar n

def hexOfBytes (bytes : List UInt8) : List Char :=
  bytes.flatMap fun b => [hexDigit (b.toNat / 16), hexDigit (b.toNat % 16)]

def bytesOfHex? (s : List Char) : Option (List UInt8) :=
  go [] s
where
  go (acc : List UInt8) : List Char → Option (List UInt8)
    | [] => some acc.reverse
    | [_] => none
    | a :: b :: rest =>
      match digitValue? 16 a, digitValue? 16 b with
      | some x, some y => go (UInt8.ofNat (x * 16 + y) :: acc) rest
      | _, _ => none

end NumaFabric.Text
