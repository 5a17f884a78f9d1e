namespace NumaFabric.Text

/-- The value of an ASCII digit in a base up to sixteen; letters count in either case. -/
def digitValue? (base : Nat) (c : Char) : Option Nat :=
  let n := c.toNat
  let v? : Option Nat :=
    if 48 ≤ n ∧ n ≤ 57 then some (n - 48)
    else if 97 ≤ n ∧ n ≤ 102 then some (n - 87)
    else if 65 ≤ n ∧ n ≤ 70 then some (n - 55)
    else none
  v?.filter (· < base)

/-- Appends the digits of a text to a number read so far. -/
def accumulate? (base : Nat) : Nat → List Char → Option Nat
  | acc, [] => some acc
  | acc, c :: cs =>
    match digitValue? base c with
    | some d => accumulate? base (acc * base + d) cs
    | none => none

def digits? (base : Nat) : List Char → Option Nat
  | [] => none
  | s => accumulate? base 0 s

/-- Decimal digits after an optional plus sign, for a number below `bound`. -/
def unsigned? (bound : Nat) (s : List Char) : Option Nat :=
  (digits? 10 (if s.head? = some '+' then s.tail else s)).filter (· < bound)

/-- Decimal digits after an optional sign, for a number from `-bound` to below `bound`. -/
def signed? (bound : Nat) : List Char → Option Int
  | '-' :: s => ((digits? 10 s).filter (· ≤ bound)).map fun n => -(n : Int)
  | s => (unsigned? bound s).map Int.ofNat

def dropSign : List Char → List Char
  | '+' :: s | '-' :: s => s
  | s => s

def isExponentMark (c : Char) : Bool := c == 'e' || c == 'E'

def spelledNumbers : List String := ["inf", "infinity", "nan"]

/-- A number with an optional sign, a digit before or after an optional point, and an optional
exponent; or one in letters of either case. -/
def isReal (s : List Char) : Bool :=
  let s := dropSign s
  let whole := s.takeWhile Char.isDigit
  let rest := s.dropWhile Char.isDigit
  let (fraction, rest) := match rest with
    | '.' :: rest => (rest.takeWhile Char.isDigit, rest.dropWhile Char.isDigit)
    | rest => ([], rest)
  spelledNumbers.contains (String.ofList (s.map Char.toLower)) ||
    !(whole.isEmpty && fraction.isEmpty) &&
      match rest with
      | [] => true
      | c :: e => isExponentMark c && (digits? 10 (dropSign e)).isSome

def decimal (n : Nat) : List Char := Nat.toDigits 10 n

def hex (n : Nat) : String := "0x" ++ String.ofList (Nat.toDigits 16 n)

def hexWord (n : Nat) : String :=
  let ds := Nat.toDigits 16 n
  "0x" ++ String.ofList (List.replicate (8 - ds.length) '0' ++ ds)

end NumaFabric.Text
