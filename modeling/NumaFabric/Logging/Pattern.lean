import NumaFabric.Text.Blank
import NumaFabric.Text.Letter
import NumaFabric.Text.Numeral
import NumaFabric.Text.Split
/-!
Patterns for the values of fields: regular expressions with groups, sets, repetitions and escapes.
Only which texts are patterns matters here, since a value is looked at within spans alone. Classes
of characters and their cases are known for ASCII only, and so only where Unicode is switched off. A
count in braces is none, since a closing brace ends the field.
-/

namespace NumaFabric.Logging.Pattern

open NumaFabric.Text

structure Mode where
  ignoresCase : Bool
  unicode : Bool
  /-- Blanks and comments stand between the parts of the pattern. -/
  spaced : Bool
deriving DecidableEq

namespace Mode

def plain : Mode := ⟨false, true, false⟩

def takesLetters (m : Mode) : Bool := !(m.ignoresCase && m.unicode)

def takes (m : Mode) (c : Char) : Bool := m.unicode || c.toNat < 128

def skipFrom (m : Mode) : (inComment : Bool) → List Char → List Char
  | _, [] => []
  | inComment, c :: rest =>
    if !m.spaced then c :: rest
    else if inComment then m.skipFrom (c != '\n') rest
    else if c == '#' then m.skipFrom true rest
    else if isBlank c then m.skipFrom false rest
    else c :: rest

def skip (m : Mode) (s : List Char) : List Char := m.skipFrom false s

/-- Switches that follow an opening parenthesis, up to the closing one or a colon. A minus switches
off what follows it. No switch stands there twice, and something follows the minus. -/
def switch? (m : Mode) : (on : Bool) → (seen : List Char) → List Char → Option (Mode × List Char)
  | _, _, [] => none
  | on, seen, c :: rest =>
    if c == ')' || c == ':' then if seen.head? == some '-' then none else some (m, c :: rest)
    else if seen.contains c then none
    else
      match c with
      | '-' => m.switch? false ('-' :: seen) rest
      | 'i' => { m with ignoresCase := on }.switch? on ('i' :: seen) rest
      | 'u' => { m with unicode := on }.switch? on ('u' :: seen) rest
      | 'x' => { m with spaced := on }.switch? on ('x' :: seen) rest
      | 'm' | 's' | 'U' | 'R' => m.switch? on (c :: seen) rest
      | _ => none

end Mode

inductive Atom where
  | char (c : Char)
  | charClass
  | place
deriving DecidableEq

def codePoint? (m : Mode) : (count : Nat) → (digits : List Char) → List Char →
    Option (Char × List Char)
  | 0, digits, s =>
    (digits? 16 digits.reverse).bind fun n =>
      if n.isValidChar then some (Char.ofNat n, s) else none
  | count + 1, digits, s =>
    match m.skip s with
    | [] => none
    | c :: rest => codePoint? m count (c :: digits) rest

def controls : List (Char × Char) :=
  [('a', '\x07'), ('f', '\x0c'), ('t', '\t'), ('n', '\n'), ('r', '\r'), ('v', '\x0b')]

/-- What a backslash makes of the text after it. Marks stand for themselves, letters and digits do
not. -/
def escape? (m : Mode) : List Char → Option (Atom × List Char)
  | [] => none
  | 'x' :: rest => (codePoint? m 2 [] rest).bind fun p =>
    if m.takes p.1 then some (.char p.1, p.2) else none
  | 'u' :: rest => (codePoint? m 4 [] rest).map fun p => (.char p.1, p.2)
  | 'U' :: rest => (codePoint? m 8 [] rest).map fun p => (.char p.1, p.2)
  | c :: rest =>
    match controls.lookup c with
    | some control => some (.char control, rest)
    | none =>
      if c == 'A' || c == 'z' then some (.place, rest)
      else if c == 'b' || c == 'B' || c == '<' || c == '>' then
        if m.unicode then none else some (.place, rest)
      else if c == 'd' || c == 's' || c == 'w' then
        if m.unicode then none else some (.charClass, rest)
      else if c.isAlphanum || 128 ≤ c.toNat then none
      else some (.char c, rest)

def classNames : List String :=
  ["alnum", "alpha", "ascii", "blank", "cntrl", "digit", "graph", "lower", "print", "punct",
    "space", "upper", "word", "xdigit"]

def namedClass? : List Char → Option (List Char)
  | ':' :: rest =>
    match splitOnce ':' (if rest.head? == some '^' then rest.tail else rest) with
    | some (name, ']' :: rest) =>
      if classNames.contains (String.ofList name) then some rest else none
    | _ => none
  | _ => none

/-- The beginning of a set after its bracket: an inverting mark, then marks that would end the set
or join a range elsewhere. -/
def openSet? (m : Mode) (s : List Char) : Option (List Char) :=
  let s := m.skip s
  let inverted := s.head? == some '^'
  if inverted && !m.unicode then none
  else
    match if inverted then m.skip s.tail else s with
    | ']' :: rest => some rest
    | s => some (m.skip (s.dropWhile fun c => c == '-' || m.spaced && isBlank c))

def setItem? (m : Mode) : List Char → Option (Atom × List Char)
  | '\\' :: rest => escape? m rest
  | c :: rest => some (.char c, rest)
  | [] => none

def isMember (m : Mode) : Atom → Bool
  | .char c => m.takes c
  | .charClass => true
  | .place => false

def setRange? (m : Mode) (s : List Char) : Option (List Char) := do
  let (first, rest) ← setItem? m s
  match m.skip rest with
  | '-' :: after =>
    match m.skip after with
    | ']' :: _ | '-' :: _ => if isMember m first then some ('-' :: after) else none
    | last =>
      match first, ← setItem? m last with
      | .char a, (.char b, rest) =>
        if a ≤ b && m.takes a && m.takes b then some rest else none
      | _, _ => none
  | rest => if isMember m first then some rest else none

/-- A set up to its closing bracket, with `depth` sets open around it. -/
def set? (m : Mode) : (fuel depth : Nat) → List Char → Option (List Char)
  | 0, _, _ => none
  | fuel + 1, depth, s =>
    match m.skip s with
    | [] => none
    | '[' :: rest =>
      match namedClass? rest with
      | some rest => set? m fuel depth rest
      | none => (openSet? m rest).bind fun rest => set? m fuel (depth + 1) rest
    | ']' :: rest =>
      match depth with
      | 0 => some rest
      | depth + 1 => set? m fuel depth rest
    | '&' :: '&' :: rest | '-' :: '-' :: rest | '~' :: '~' :: rest => set? m fuel depth rest
    | s => (setRange? m s).bind fun rest => set? m fuel depth rest

structure Reading where
  mode : Mode
  /-- The modes around the open groups, innermost first. -/
  outer : List Mode
  names : List (List Char)
  /-- What stands right before can be repeated. -/
  repeatable : Bool

def groupName? (s : List Char) : Option (List Char × List Char) :=
  match splitOnce '>' s with
  | some (c :: cs, rest) =>
    let isFirst := c == '_' || isLetterOrNumber c && !c.isDigit
    let isNext (c : Char) : Bool := isLetterOrNumber c || ['_', '.', '[', ']'].contains c
    if isFirst && cs.all isNext then some (c :: cs, rest) else none
  | _ => none

namespace Reading

def start : Reading := ⟨.plain, [], [], false⟩

def inGroup (r : Reading) : Reading := { r with outer := r.mode :: r.outer, repeatable := false }

def named? (r : Reading) (s : List Char) : Option (Reading × List Char) :=
  (groupName? s).bind fun p =>
    if r.names.contains p.1 then none
    else some ({ r.inGroup with names := p.1 :: r.names }, p.2)

/-- What an opening parenthesis begins: a group, or switches for what is left of the one around. -/
def opened? (r : Reading) (s : List Char) : Option (Reading × List Char) :=
  match r.mode.skip s with
  | '?' :: 'P' :: '<' :: rest | '?' :: '<' :: rest => r.named? rest
  | '?' :: ')' :: _ => none
  | '?' :: rest =>
    match r.mode.switch? true [] rest with
    | some (mode, ':' :: rest) => some ({ r.inGroup with mode }, rest)
    | some (mode, ')' :: rest) => some ({ r with mode, repeatable := false }, rest)
    | _ => none
  | rest => some (r.inGroup, rest)

def closed? (r : Reading) : Option Reading :=
  match r.outer with
  | [] => none
  | mode :: outer => some { r with mode, outer, repeatable := true }

def letter? (r : Reading) : Option Reading :=
  if r.mode.takesLetters then some { r with repeatable := true } else none

def repeated? (r : Reading) (s : List Char) : Option (Reading × List Char) :=
  if r.repeatable then some (r, if s.head? == some '?' then s.tail else s) else none

def step? (r : Reading) : List Char → Option (Reading × List Char)
  | [] => none
  | '(' :: rest => r.opened? rest
  | ')' :: rest => r.closed?.map fun r => (r, rest)
  | '|' :: rest => some ({ r with repeatable := false }, rest)
  | '[' :: rest => do
    let r ← r.letter?
    let rest ← openSet? r.mode rest
    return (r, ← set? r.mode (rest.length + 1) 0 rest)
  | '?' :: rest | '*' :: rest | '+' :: rest => r.repeated? rest
  | '\x7b' :: _ => none
  | '\\' :: rest => do
    let (atom, rest) ← escape? r.mode rest
    match atom with
    | .char _ => return (← r.letter?, rest)
    | _ => return ({ r with repeatable := true }, rest)
  | '.' :: rest => if r.mode.unicode then some ({ r with repeatable := true }, rest) else none
  | '^' :: rest | '$' :: rest => some ({ r with repeatable := true }, rest)
  | _ :: rest => r.letter?.map fun r => (r, rest)

def run (fuel : Nat) (r : Reading) (s : List Char) : Bool :=
  match fuel, r.mode.skip s with
  | _, [] => r.outer.isEmpty
  | 0, _ => false
  | fuel + 1, s =>
    match r.step? s with
    | some (r, rest) => run fuel r rest
    | none => false

end Reading

def isPattern (s : List Char) : Bool := Reading.start.run s.length s

end NumaFabric.Logging.Pattern
