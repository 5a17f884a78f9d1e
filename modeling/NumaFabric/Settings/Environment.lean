import NumaFabric.Settings.Toml.Scalar
import NumaFabric.Text.Blank
import NumaFabric.Text.Slice
import NumaFabric.Text.Split

namespace NumaFabric.Settings

open NumaFabric.Text

abbrev Variables := List (String × String)

namespace Variables

/-- The text of a variable; the last one of that name counts. -/
def get? (vars : Variables) (name : String) : Option String :=
  (vars.reverse.find? fun v => v.1 = name).map (·.2)

/-- Variables from one text: each is a name, an equals sign and a value, with a zero character after
it. What has no equals sign is passed over. -/
def ofBlock (block : List Char) : Variables :=
  (splitAll '\x00' block).filterMap fun entry =>
    (splitOnce '=' entry).map fun p => (String.ofList p.1, String.ofList p.2)

end Variables

namespace Inline

def skipBlanks (s : List Char) : List Char := s.dropWhile isAsciiBlank

def isSeparator (c : Char) : Bool :=
  c == ',' || c == '\x7b' || c == '\x7d' || c == '[' || c == ']'

inductive Fault where
  | malformed
  /-- The text is cut inside a character, and nothing more is read at all. -/
  | split (cut : SplitCharacter)
deriving DecidableEq

abbrev Step (α : Type) := Except Fault (α × List Char)

/-- What stands before the closing quote of a text, and what follows that quote. A backslash keeps
the character after it from closing. -/
def untilQuote? : List Char → Option (List Char × List Char)
  | '"' :: rest => some ([], rest)
  | '\\' :: c :: rest => (untilQuote? rest).map fun p => ('\\' :: c :: p.1, p.2)
  | c :: rest => (untilQuote? rest).map fun p => (c :: p.1, p.2)
  | [] => none

/-- Resolves the escapes of TOML; other controls than the tab may not stand as themselves. -/
def unescape? : (fuel : Nat) → List Char → Option (List Char)
  | 0, _ => none
  | fuel + 1, s =>
    match s with
    | [] => some []
    | '\\' :: rest => (Toml.escape? rest).bind fun p => (unescape? fuel p.2).map (p.1 :: ·)
    | c :: rest => if Toml.isPlain c then (unescape? fuel rest).map (c :: ·) else none

/-- The text that stands between quotes. Of what is before its first escape, a text keeps only as
many bytes as there are characters. -/
def unquote (s : List Char) : Except Fault String :=
  let plain := s.takeWhile (· != '\\')
  let escaped := s.dropWhile (· != '\\')
  if !plain.all Toml.isPlain then .error .malformed
  else if escaped.isEmpty then .ok (String.ofList plain)
  else
    match slice s 0 plain.length, unescape? (escaped.length + 1) escaped with
    | .error cut, _ => .error (.split cut)
    | .ok _, none => .error .malformed
    | .ok kept, some rest => .ok (String.ofList (kept ++ rest))

def quoted (s : List Char) : Step String :=
  match untilQuote? s with
  | none => .error .malformed
  | some (inner, rest) => (unquote inner).map fun text => (text, rest)

/-- The value of a word. A number is no whole one if it has a point. -/
def ofWord (w : List Char) : Value :=
  if w.contains '.' && isReal w then .real (String.ofList w)
  else
    match unsigned? UInt64.size w, signed? (UInt64.size / 2) w with
    | some n, _ => .int n
    | none, some n => .int n
    | none, none => .text (String.ofList w)

def key (s : List Char) : Step String :=
  match s with
  | '"' :: rest => quoted rest
  | s =>
    let isKeyChar (c : Char) : Bool := c.isAlphanum || c == '_' || c == '-'
    let name := s.takeWhile isKeyChar
    if name.isEmpty then .error .malformed else .ok (String.ofList name, s.dropWhile isKeyChar)

mutual

def value : (fuel : Nat) → List Char → Step Value
  | 0, _ => .error .malformed
  | fuel + 1, s =>
    let read : Step Value :=
      match skipBlanks s with
      | 't' :: 'r' :: 'u' :: 'e' :: rest => .ok (.bool true, rest)
      | 'f' :: 'a' :: 'l' :: 's' :: 'e' :: rest => .ok (.bool false, rest)
      | '\x7b' :: rest => (fields fuel [] rest).map fun p => (.table p.1, p.2)
      | '[' :: rest => (items fuel [] rest).map fun p => (.list p.1, p.2)
      | '"' :: rest => (quoted rest).map fun p => (.text p.1, p.2)
      | '\'' :: c :: '\'' :: rest => .ok (.text (String.singleton c), rest)
      | '\'' :: _ => .error .malformed
      | rest =>
        .ok (ofWord (trim (rest.takeWhile fun c => !isSeparator c)),
          rest.dropWhile fun c => !isSeparator c)
    read.map fun p => (p.1, skipBlanks p.2)

def items : (fuel : Nat) → List Value → List Char → Step (List Value)
  | 0, _, _ => .error .malformed
  | fuel + 1, acc, s =>
    match s with
    | ']' :: rest => .ok (acc.reverse, rest)
    | s =>
      match value fuel s with
      | .error e => .error e
      | .ok (v, ',' :: rest) => items fuel (v :: acc) rest
      | .ok (v, ']' :: rest) => .ok ((v :: acc).reverse, rest)
      | .ok _ => .error .malformed

/-- The fields up to the closing brace; the last of equal names counts. -/
def fields : (fuel : Nat) → List (String × Value) → List Char → Step (List (String × Value))
  | 0, _, _ => .error .malformed
  | fuel + 1, acc, s =>
    match s with
    | '\x7d' :: rest => .ok (acc, rest)
    | s =>
      match key (skipBlanks s) with
      | .error e => .error e
      | .ok (name, rest) =>
        match skipBlanks rest with
        | '=' :: rest =>
          match value fuel rest with
          | .error e => .error e
          | .ok (v, ',' :: rest) => fields fuel (Fields.put acc name v) rest
          | .ok (v, '\x7d' :: rest) => .ok (Fields.put acc name v, rest)
          | .ok _ => .error .malformed
        | _ => .error .malformed

end

def parse (s : List Char) : Except SplitCharacter Value :=
  match value (2 * s.length + 2) s with
  | .ok (v, []) => .ok v
  | .error (.split cut) => .error cut
  | _ => .ok (.text (String.ofList s))

end Inline

def dotted : List Char → List Char
  | '_' :: '_' :: rest => '.' :: dotted rest
  | c :: rest => c :: dotted rest
  | [] => []

namespace Variables

/-- The settings of one variable under a name; without a name or a part of it there are none. -/
def layer (name : List Char) (text : String) : Except SplitCharacter Fields :=
  let path := splitAll '.' (trim name)
  if path.any List.isEmpty then .ok []
  else
    (Inline.parse text.toList).map fun v =>
      match nested (path.map fun part => String.ofList (part.map Char.toLower)) v with
      | .table fields => fields
      | _ => []

def layers (name? : List Char → Option (List Char)) (vars : Variables) :
    Except SplitCharacter Fields :=
  vars.foldlM (fun acc v =>
    match name? (v.1.toList) with
    | some name => (layer name v.2).map (Fields.over acc)
    | none => .ok acc) []

def only (names : List String) (vars : Variables) : Except SplitCharacter Fields :=
  let lower (s : List Char) := s.map Char.toLower
  layers (fun s => if names.any fun n => lower n.toList = lower s then some s else none) vars

/-- The variables whose names begin with a prefix; it is taken off, and `__` leads into tables. -/
def prefixed (start : String) (vars : Variables) : Except SplitCharacter Fields :=
  let lower (s : List Char) := s.map Char.toLower
  let begins (s : List Char) : Bool := (lower start.toList).isPrefixOf (lower s)
  layers (fun s => if begins s then some (dotted (s.drop start.length)) else none) vars

end Variables

end NumaFabric.Settings
