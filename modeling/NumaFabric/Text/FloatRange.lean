import NumaFabric.Text.Numeral
/-!
Which decimal numbers are beyond every finite float of 64 bits. A number is read either exactly, or
as the product of two floats: its leading digits and a power of ten. Near the bound the two may
differ.
-/

namespace NumaFabric.Text

/-- The least number that does not round to a finite float. -/
def floatBound : Nat := Nat.pow 2 1024 - Nat.pow 2 970

/-- The nearest number with at most 53 bits before its trailing zeros; halfway, the even one. -/
def roundFloat (n : Nat) : Nat :=
  let unit := Nat.pow 2 (n.log2 + 1 - 53)
  let q := n / unit
  let excess := 2 * (n % unit)
  if unit < excess || (excess == unit && q % 2 == 1) then (q + 1) * unit else q * unit

/-- Whether `ds` times ten to the `e` rounds to no finite float. -/
def exceedsFloats (ds : List Char) (e : Int) : Bool :=
  match digits? 10 ds with
  | none | some 0 => false
  | some n =>
    let magnitude := (decimal n).length + e
    if magnitude > 310 then true
    else if magnitude < 300 then false
    else if e ≥ 0 then floatBound ≤ n * Nat.pow 10 e.toNat
    else floatBound * Nat.pow 10 (-e).toNat ≤ n

def productExceedsFloats (n : Nat) (e : Int) : Bool :=
  n != 0 && 0 ≤ e &&
    (308 < e || floatBound ≤ roundFloat n * roundFloat (Nat.pow 10 e.toNat))

end NumaFabric.Text
