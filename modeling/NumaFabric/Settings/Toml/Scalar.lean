import NumaFabric.Settings.Value
import NumaFabric.Text.FloatRange

namespace NumaFabric.Settings.Toml

open NumaFabric.Text

/-- The characters of strings and comments: tab, and all but control characters. -/
def isPlain (c : Char) : Bool := c == '\t' || (32 ≤ c.toNat && c.toNat != 127)

def isSpace (c : Char) : Bool := c == ' ' || c == '\t'

def skipSpace (s : List Char) : List Char := s.dropWhile isSpace

def newline? : List Char → Option (List Char)
  | '\n' :: rest | '\r' :: '\n' :: rest => some rest
  | _ => none

def codePoint? (digits : List Char) : Option Char :=
  (digits? 16 digits).bind fun n => if n.isValidChar then some (Char.ofNat n) else none

def shortEscape? : Char → Option Char
  | '"' => some '"'
  | '\\' => some '\\'
  | 'b' => some '\x08'
  | 'f' => some '\x0c'
  | 'n' => some '\n'
  | 'r' => some '\r'
  | 't' => some '\t'
  | _ => none

def escape? : List Char → Option (Char × List Char)
  | 'u' :: a :: b :: c :: d :: rest => (codePoint? [a, b, c, d]).map fun x => (x, rest)
  | 'U' :: a :: b :: c :: d :: e :: f :: g :: h :: rest =>
    (codePoint? [a, b, c, d, e, f, g, h]).map fun x => (x, rest)
  | c :: rest => (shortEscape? c).map fun x => (x, rest)
  | [] => none

/-- A string on one line with escapes, after its opening quote. Each step takes a character. -/
def basicBody? : (fuel : Nat) → List Char → List Char → Option (String × List Char)
  | 0, _, _ => none
  | fuel + 1, acc, s =>
    match s with
    | '"' :: rest => some (String.ofList acc.reverse, rest)
    | '\\' :: rest => (escape? rest).bind fun p => basicBody? fuel (p.1 :: acc) p.2
    | c :: rest => if isPlain c then basicBody? fuel (c :: acc) rest else none
    | [] => none

def skipEmptyLines : List Char → List Char
  | '\r' :: '\n' :: rest => skipEmptyLines rest
  | c :: rest => if isSpace c || c == '\n' then skipEmptyLines rest else c :: rest
  | [] => []

/-- A string on several lines with escapes. A backslash at the end of a line takes away all blanks
and line endings that follow. -/
def basicBlock? : (fuel : Nat) → List Char → List Char → Option (String × List Char)
  | 0, _, _ => none
  | fuel + 1, acc, s =>
    match s with
    | '"' :: '"' :: '"' :: '"' :: '"' :: rest =>
      some (String.ofList ('"' :: '"' :: acc).reverse, rest)
    | '"' :: '"' :: '"' :: '"' :: rest => some (String.ofList ('"' :: acc).reverse, rest)
    | '"' :: '"' :: '"' :: rest => some (String.ofList acc.reverse, rest)
    | '\\' :: rest =>
      if (newline? (skipSpace rest)).isSome then
        basicBlock? fuel acc (skipEmptyLines rest)
      else (escape? rest).bind fun p => basicBlock? fuel (p.1 :: acc) p.2
    | '\r' :: '\n' :: rest | '\n' :: rest => basicBlock? fuel ('\n' :: acc) rest
    | c :: rest => if isPlain c then basicBlock? fuel (c :: acc) rest else none
    | [] => none

def literalBody? : List Char → List Char → Option (String × List Char)
  | acc, '\'' :: rest => some (String.ofList acc.reverse, rest)
  | acc, c :: rest => if isPlain c then literalBody? (c :: acc) rest else none
  | _, [] => none

def literalBlock? : List Char → List Char → Option (String × List Char)
  | acc, '\'' :: '\'' :: '\'' :: '\'' :: '\'' :: rest =>
    some (String.ofList ('\'' :: '\'' :: acc).reverse, rest)
  | acc, '\'' :: '\'' :: '\'' :: '\'' :: rest => some (String.ofList ('\'' :: acc).reverse, rest)
  | acc, '\'' :: '\'' :: '\'' :: rest => some (String.ofList acc.reverse, rest)
  | acc, '\r' :: '\n' :: rest => literalBlock? ('\n' :: acc) rest
  | acc, '\n' :: rest => literalBlock? ('\n' :: acc) rest
  | acc, c :: rest => if isPlain c then literalBlock? (c :: acc) rest else none
  | _, [] => none

def lineString? : List Char → Option (String × List Char)
  | '"' :: rest => basicBody? (rest.length + 1) [] rest
  | '\'' :: rest => literalBody? [] rest
  | _ => none

/-- A string in any form; a line ending right after three opening quotes does not count. -/
def string? : List Char → Option (String × List Char)
  | '"' :: '"' :: '"' :: rest =>
    let body := (newline? rest).getD rest
    basicBlock? (body.length + 1) [] body
  | '\'' :: '\'' :: '\'' :: rest => literalBlock? [] ((newline? rest).getD rest)
  | s => lineString? s

/-- Takes single underscores out from between digits. -/
def ungroup? (isDigit : Char → Bool) : List Char → Option (List Char)
  | [] => none
  | [c] => if isDigit c then some [c] else none
  | c :: '_' :: rest => if isDigit c then (ungroup? isDigit rest).map (c :: ·) else none
  | c :: rest => if isDigit c then (ungroup? isDigit rest).map (c :: ·) else none

def grouped? (base : Nat) (s : List Char) : Option Nat :=
  (ungroup? (fun c => (digitValue? base c).isSome) s).bind (digits? base)

def wholePart? (s : List Char) : Option Nat :=
  match ungroup? Char.isDigit s with
  | some ('0' :: _ :: _) => none
  | some ds => digits? 10 ds
  | none => none

def intBound : Int := UInt64.size / 2

def bounded? (n : Int) : Option Int := if -intBound ≤ n ∧ n < intBound then some n else none

def integer? : List Char → Option Int
  | '0' :: 'x' :: s => (grouped? 16 s).bind fun n => bounded? n
  | '0' :: 'o' :: s => (grouped? 8 s).bind fun n => bounded? n
  | '0' :: 'b' :: s => (grouped? 2 s).bind fun n => bounded? n
  | '+' :: s => (wholePart? s).bind fun n => bounded? n
  | '-' :: s => (wholePart? s).bind fun n => bounded? (-n)
  | s => (wholePart? s).bind fun n => bounded? n

def scientific? (s : List Char) : Option (List Char × Int) := do
  let mantissa := s.takeWhile fun c => !isExponentMark c
  let exponent := s.dropWhile fun c => !isExponentMark c
  let whole := mantissa.takeWhile (· != '.')
  let fraction := mantissa.dropWhile (· != '.')
  let _ ← wholePart? whole
  if exponent.isEmpty && fraction.isEmpty then none
  let digits ← ungroup? Char.isDigit whole
  let decimals ← if fraction.isEmpty then some [] else ungroup? Char.isDigit fraction.tail
  let power : Int ←
    match exponent.tail with
    | [] => if exponent.isEmpty then some 0 else none
    | '-' :: ds => ((ungroup? Char.isDigit ds).bind (digits? 10)).map fun n => -(n : Int)
    | ds => ((ungroup? Char.isDigit (dropSign ds)).bind (digits? 10)).map Int.ofNat
  return (digits ++ decimals, power - decimals.length)

/-- A number with a fraction or an exponent, or one that is none or has no bound. A positive number
must not be beyond every float; a negative one may be. -/
def isFloat (s : List Char) : Bool :=
  let unsigned := dropSign s
  if unsigned = ['i', 'n', 'f'] ∨ unsigned = ['n', 'a', 'n'] then true
  else
    match scientific? unsigned with
    | none => false
    | some (ds, e) => s.head? == some '-' || !exceedsFloats ds e

def inRange (a b : Char) (lo hi : Nat) : Bool :=
  match digits? 10 [a, b] with
  | some n => lo ≤ n && n ≤ hi
  | none => false

def isLeap (year : Nat) : Bool := year % 4 == 0 && (year % 100 != 0 || year % 400 == 0)

def daysOfMonth (year month : Nat) : Nat :=
  if month = 2 then if isLeap year then 29 else 28
  else if month = 4 ∨ month = 6 ∨ month = 9 ∨ month = 11 then 30
  else 31

def afterDate? : List Char → Option (List Char)
  | a :: b :: c :: d :: '-' :: e :: f :: '-' :: g :: h :: rest =>
    match digits? 10 [a, b, c, d], digits? 10 [e, f] with
    | some year, some month =>
      if inRange e f 1 12 && inRange g h 1 (daysOfMonth year month) then some rest else none
    | _, _ => none
  | _ => none

def afterTime? : List Char → Option (List Char)
  | a :: b :: ':' :: c :: d :: ':' :: e :: f :: rest =>
    if inRange a b 0 23 && inRange c d 0 59 && inRange e f 0 60 then
      match rest with
      | '.' :: x :: rest => if x.isDigit then some (rest.dropWhile Char.isDigit) else none
      | ['.'] => none
      | rest => some rest
    else none
  | _ => none

def isOffset : List Char → Bool
  | [] | ['Z'] | ['z'] => true
  | [sign, a, b, ':', c, d] => (sign == '+' || sign == '-') && inRange a b 0 23 && inRange c d 0 59
  | _ => false

/-- A date, a time, or both with a separator between them and perhaps an offset. -/
def isDate (s : List Char) : Bool :=
  match afterDate? s with
  | some [] => true
  | some (c :: time) =>
    (c == 'T' || c == 't' || c == ' ') && (afterTime? time).any isOffset
  | none => afterTime? s == some []

def isWordChar (c : Char) : Bool :=
  c.isAlphanum || c == '_' || c == '+' || c == '-' || c == '.' || c == ':'

/-- A word, and with it the time that follows a date after one space. -/
def word (s : List Char) : List Char × List Char :=
  let w := s.takeWhile isWordChar
  let rest := s.dropWhile isWordChar
  match afterDate? w, rest with
  | some [], ' ' :: after =>
    if (afterTime? after).isSome then
      (w ++ ' ' :: after.takeWhile isWordChar, after.dropWhile isWordChar)
    else (w, rest)
  | _, _ => (w, rest)

/-- The key under which the text of a date stands in a table of its own. -/
def dateKey : String := "$__toml_private_datetime"

def ofWord? (w : List Char) : Option Value :=
  if w = ['t', 'r', 'u', 'e'] then some (.bool true)
  else if w = ['f', 'a', 'l', 's', 'e'] then some (.bool false)
  else
    match integer? w with
    | some n => some (.int n)
    | none =>
      if isFloat w then some (.real (String.ofList w))
      else if isDate w then some (.table [(dateKey, .text (String.ofList w))])
      else none

end NumaFabric.Settings.Toml
