import NumaFabric.Json.Basic
import NumaFabric.Text.FloatRange

namespace NumaFabric.Json

open NumaFabric.Text

def skipBlanks (s : List Char) : List Char :=
  s.dropWhile fun c => c == ' ' || c == '\t' || c == '\n' || c == '\r'

def hexUnit? : List Char → Option (Nat × List Char)
  | a :: b :: c :: d :: rest => (digits? 16 [a, b, c, d]).map fun n => (n, rest)
  | _ => none

def shortEscape? : Char → Option Char
  | '"' => some '"'
  | '\\' => some '\\'
  | '/' => some '/'
  | 'b' => some '\x08'
  | 'f' => some '\x0c'
  | 'n' => some '\n'
  | 'r' => some '\r'
  | 't' => some '\t'
  | _ => none

/-- What follows the opening quote, up to the closing one. The result is `none` inside when the
text holds half a surrogate pair. Each step takes at least one character. -/
def stringBody? : Nat → Bool → List Char → List Char → Option (Option String × List Char)
  | 0, _, _, _ => none
  | fuel + 1, whole, acc, s =>
    match s with
    | [] => none
    | '"' :: rest => some (if whole then some (String.ofList acc.reverse) else none, rest)
    | '\\' :: 'u' :: rest =>
      match hexUnit? rest with
      | none => none
      | some (n, rest) =>
        if 0xdc00 ≤ n ∧ n ≤ 0xdfff then stringBody? fuel false acc rest
        else if 0xd800 ≤ n ∧ n ≤ 0xdbff then
          match rest with
          | '\\' :: 'u' :: after =>
            match hexUnit? after with
            | none => none
            | some (m, after) =>
              if 0xdc00 ≤ m ∧ m ≤ 0xdfff then
                let c := Char.ofNat (0x10000 + (n - 0xd800) * 0x400 + (m - 0xdc00))
                stringBody? fuel whole (c :: acc) after
              else stringBody? fuel false acc rest
          | _ => stringBody? fuel false acc rest
        else stringBody? fuel whole (Char.ofNat n :: acc) rest
    | '\\' :: c :: rest =>
      match shortEscape? c with
      | some d => stringBody? fuel whole (d :: acc) rest
      | none => none
    | c :: rest =>
      if c.toNat < 32 then none else stringBody? fuel whole (c :: acc) rest

def string? (s : List Char) : Option (Option String × List Char) :=
  stringBody? (s.length + 1) true [] s

def someDigits? (s : List Char) : Option (List Char × List Char) :=
  let ds := s.takeWhile Char.isDigit
  if ds.isEmpty then none else some (ds, s.dropWhile Char.isDigit)

/-- Appends digits to a number as long as it fits a word, and counts the digits that are left. -/
def appendDigits (n : Nat) : List Char → Nat × Nat
  | [] => (n, 0)
  | c :: rest =>
    let longer := n * 10 + (digitValue? 10 c).getD 0
    if longer < UInt64.size then appendDigits longer rest else (n, rest.length + 1)

/-- Whether a number is out of range. It is held as its leading digits and a power of ten; the
digits of the integer part that are left count in the power, those of the fraction do not count at
all. -/
def isOutOfRange (whole fraction : List Char) (exponent : Int) : Bool :=
  let (n, left) := appendDigits 0 whole
  let (n, dropped) := appendDigits n fraction
  productExceedsFloats n (exponent + left - (fraction.length - dropped : Nat))

def fraction? : List Char → Option (Option (List Char) × List Char)
  | '.' :: rest => (someDigits? rest).map fun p => (some p.1, p.2)
  | rest => some (none, rest)

def exponent? : List Char → Option (Option Int × List Char)
  | 'e' :: '+' :: rest | 'E' :: '+' :: rest =>
    (someDigits? rest).map fun p => (some ((digits? 10 p.1).getD 0 : Int), p.2)
  | 'e' :: '-' :: rest | 'E' :: '-' :: rest =>
    (someDigits? rest).map fun p => (some (-((digits? 10 p.1).getD 0 : Int)), p.2)
  | 'e' :: rest | 'E' :: rest =>
    (someDigits? rest).map fun p => (some ((digits? 10 p.1).getD 0 : Int), p.2)
  | rest => some (none, rest)

def number? (s : List Char) : Option (Json × List Char) := do
  let negative := s.head? == some '-'
  let unsigned := if negative then s.tail else s
  let (whole, rest) ← someDigits? unsigned
  if whole.head? == some '0' && whole.length > 1 then none
  let (fraction, rest) ← fraction? rest
  let (exponent, rest) ← exponent? rest
  let literal := String.ofList (s.take (s.length - rest.length))
  let n := (digits? 10 whole).getD 0
  let integral := fraction.isNone && exponent.isNone
  if integral && !negative && n < UInt64.size then return (int n, rest)
  if integral && negative && 0 < n && 2 * n ≤ UInt64.size then return (int (-n), rest)
  if isOutOfRange whole (fraction.getD []) (exponent.getD 0) then return (unreadable, rest)
  return (real literal, rest)

mutual

def value? : Nat → List Char → Option (Json × List Char)
  | 0, _ => none
  | fuel + 1, s =>
    match skipBlanks s with
    | 'n' :: 'u' :: 'l' :: 'l' :: rest => some (null, rest)
    | 't' :: 'r' :: 'u' :: 'e' :: rest => some (bool true, rest)
    | 'f' :: 'a' :: 'l' :: 's' :: 'e' :: rest => some (bool false, rest)
    | '"' :: rest =>
      (string? rest).map fun p => (p.1.elim unreadable str, p.2)
    | '[' :: rest =>
      match skipBlanks rest with
      | ']' :: rest => some (arr [], rest)
      | _ => (items? fuel [] rest).map fun p => (arr p.1, p.2)
    | '\x7b' :: rest =>
      match skipBlanks rest with
      | '\x7d' :: rest => some (obj [], rest)
      | _ => (fields? fuel true [] rest).map fun p => (p.1.elim unreadable obj, p.2)
    | rest => number? rest

def items? : Nat → List Json → List Char → Option (List Json × List Char)
  | 0, _, _ => none
  | fuel + 1, acc, s =>
    match value? fuel s with
    | none => none
    | some (j, rest) =>
      match skipBlanks rest with
      | ',' :: rest => items? fuel (j :: acc) rest
      | ']' :: rest => some ((j :: acc).reverse, rest)
      | _ => none

/-- The fields from one on, up to the closing brace; none of them when a name is unreadable. -/
def fields? : Nat → Bool → List (String × Json) → List Char →
    Option (Option (List (String × Json)) × List Char)
  | 0, _, _, _ => none
  | fuel + 1, whole, acc, s =>
    match skipBlanks s with
    | '"' :: rest =>
      match string? rest with
      | none => none
      | some (name?, rest) =>
        match skipBlanks rest with
        | ':' :: rest =>
          match value? fuel rest with
          | none => none
          | some (j, rest) =>
            let whole := whole && name?.isSome
            let acc := (name?.getD "", j) :: acc
            match skipBlanks rest with
            | ',' :: rest => fields? fuel whole acc rest
            | '\x7d' :: rest => some (if whole then some acc.reverse else none, rest)
            | _ => none
        | _ => none
    | _ => none

end

def parse? (s : String) : Option Json :=
  let cs := s.toList
  match value? (2 * cs.length + 2) cs with
  | some (j, rest) => if (skipBlanks rest).isEmpty then some j else none
  | none => none

end NumaFabric.Json
