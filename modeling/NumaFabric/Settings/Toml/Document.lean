import NumaFabric.Settings.Toml.Scalar
import NumaFabric.Settings.Toml.Tree
import NumaFabric.Settings.Wrapped

namespace NumaFabric.Settings.Toml

def isKeyChar (c : Char) : Bool := c.isAlphanum || c == '_' || c == '-'

def keyPart? (s : List Char) : Option (String × List Char) :=
  match s with
  | '"' :: _ | '\'' :: _ => lineString? s
  | s =>
    let part := s.takeWhile isKeyChar
    if part.isEmpty then none else some (String.ofList part, s.dropWhile isKeyChar)

/-- How deep arrays and tables on one line may be nested, and how many parts a key may have. -/
def nestingLimit : Nat := 79

def keyParts? : (fuel : Nat) → List Char → Option (List String × List Char)
  | 0, _ => none
  | fuel + 1, s =>
    match keyPart? (skipSpace s) with
    | none => none
    | some (part, rest) =>
      match skipSpace rest with
      | '.' :: rest => (keyParts? fuel rest).map fun p => (part :: p.1, p.2)
      | rest => some ([part], rest)

def key? (s : List Char) : Option (List String × List Char) :=
  (keyParts? (s.length + 1) s).filter fun p => p.1.length ≤ nestingLimit

/-- What stands after a comment, if the text begins with one: the end of its line. -/
def skipComment? : List Char → Option (List Char)
  | '#' :: rest =>
    let after := rest.dropWhile isPlain
    if after.isEmpty || (newline? after).isSome then some after else none
  | s => some s

def skipLines? : (fuel : Nat) → List Char → Option (List Char)
  | 0, _ => none
  | fuel + 1, s =>
    match skipComment? (skipSpace s) with
    | none => none
    | some rest =>
      match newline? rest with
      | some rest => skipLines? fuel rest
      | none => some rest

mutual

def value? : (fuel room : Nat) → List Char → Option (Value × List Char)
  | 0, _, _ => none
  | fuel + 1, room, s =>
    match s, room with
    | '"' :: _, _ | '\'' :: _, _ => (string? s).map fun p => (.text p.1, p.2)
    | '[' :: _, 0 | '\x7b' :: _, 0 => none
    | '[' :: rest, room + 1 => (items? fuel room [] rest).map fun p => (.list p.1, p.2)
    | '\x7b' :: rest, room + 1 =>
      match skipSpace rest with
      | '\x7d' :: rest => some (.table [], rest)
      | rest => (pairs? fuel room [] rest).map fun p => (.table (valueFields p.1), p.2)
    | s, _ =>
      let (w, rest) := word s
      (ofWord? w).map fun v => (v, rest)

/-- The items of an array up to its closing bracket. The last one may have a comma after it. -/
def items? : (fuel room : Nat) → List Value → List Char → Option (List Value × List Char)
  | 0, _, _, _ => none
  | fuel + 1, room, acc, s =>
    match skipLines? (s.length + 1) s with
    | none => none
    | some (']' :: rest) => some (acc.reverse, rest)
    | some s =>
      match value? fuel room s with
      | none => none
      | some (v, rest) =>
        match skipLines? (rest.length + 1) rest with
        | some (',' :: rest) => items? fuel room (v :: acc) rest
        | some (']' :: rest) => some ((v :: acc).reverse, rest)
        | _ => none

def pairs? : (fuel room : Nat) → Entries → List Char → Option (Entries × List Char)
  | 0, _, _, _ => none
  | fuel + 1, room, entries, s =>
    match pair? fuel room s with
    | none => none
    | some (path, key, v, rest) =>
      match entries.addField path key v with
      | none => none
      | some entries =>
        match skipSpace rest with
        | ',' :: rest => pairs? fuel room entries rest
        | '\x7d' :: rest => some (entries, rest)
        | _ => none

/-- A key and its value; the key by its last part and the path before it. -/
def pair? : (fuel room : Nat) → List Char → Option (List String × String × Value × List Char)
  | 0, _, _ => none
  | fuel + 1, room, s =>
    match key? s with
    | some (parts, '=' :: rest) =>
      match parts.reverse, value? fuel room (skipSpace rest) with
      | key :: path, some (v, rest) => some (path.reverse, key, v, rest)
      | _, _ => none
    | _ => none

end

inductive Statement where
  | table (path : List String)
  | element (path : List String)
  | field (path : List String) (key : String) (v : Value)

def statement? (s : List Char) : Option (Statement × List Char) :=
  match s with
  | '[' :: '[' :: rest =>
    match key? rest with
    | some (path, ']' :: ']' :: rest) => some (.element path, rest)
    | _ => none
  | '[' :: rest =>
    match key? rest with
    | some (path, ']' :: rest) => some (.table path, rest)
    | _ => none
  | s => (pair? (2 * s.length + 3) nestingLimit s).map fun p => (.field p.1 p.2.1 p.2.2.1, p.2.2.2)

def statements? : (fuel : Nat) → List Statement → List Char → Option (List Statement)
  | 0, _, _ => none
  | fuel + 1, acc, s =>
    match skipLines? (s.length + 1) s with
    | none => none
    | some [] => some acc.reverse
    | some s =>
      match statement? s with
      | none => none
      | some (st, rest) =>
        match skipComment? (skipSpace rest) with
        | none => none
        | some rest =>
          if rest.isEmpty || (newline? rest).isSome then statements? fuel (st :: acc) rest
          else none

/-- The document so far, and the table of the last header with its place. -/
structure Assembly where
  root : Entries
  repeated : Bool
  path : List String
  current : Entries

namespace Assembly

def start : Assembly := ⟨[], false, [], []⟩

def close (a : Assembly) : Option Entries := a.root.closeTable a.repeated a.path a.current

def step (a : Assembly) : Statement → Option Assembly
  | .table path => do
    let root ← a.close
    return ⟨root, false, path, root.passageAt path⟩
  | .element path => do return ⟨← a.close, true, path, []⟩
  | .field path key v => do return { a with current := ← a.current.addField path key v }

end Assembly

/-- The table that a document stands for, if it is one; wrapped values in it are unwrapped. -/
def parse? (text : String) : Option Fields := do
  let s := match text.toList with
    | '\ufeff' :: s => s
    | s => s
  let sts ← statements? (s.length + 1) [] s
  let a ← sts.foldlM Assembly.step Assembly.start
  unwrapFields? (valueFields (← a.close))

end NumaFabric.Settings.Toml
