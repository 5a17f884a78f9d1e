import NumaFabric.Settings.Value

namespace NumaFabric.Settings.Toml

inductive Origin where
  /-- By its own header, or as the document. -/
  | header
  /-- On the way to the header of another. -/
  | passage
  /-- By dotted keys. -/
  | dotted
deriving DecidableEq

inductive Node where
  | leaf (v : Value)
  | table (origin : Origin) (entries : List (String × Node))
  /-- Tables under one name, oldest first. -/
  | tables (items : List (List (String × Node)))

abbrev Entries := List (String × Node)

namespace Entries

def put (entries : Entries) (key : String) (n : Node) : Entries :=
  match entries with
  | [] => [(key, n)]
  | e :: rest => if e.1 = key then (key, n) :: rest else e :: put rest key n

/-- Changes the table at the end of a path. Tables that are missing are made as `made`; dotted keys
do not lead into tables with a header. -/
def changeAt (made : Origin) (change : Origin → Entries → Option Entries) :
    (path : List String) → Origin → Entries → Option Entries
  | [], origin, entries => change origin entries
  | key :: path, _, entries =>
    match entries.lookup key with
    | none => (changeAt made change path made []).map fun t => entries.put key (.table made t)
    | some (.leaf _) => none
    | some (.table origin sub) =>
      if made = .dotted ∧ origin = .header then none
      else (changeAt made change path origin sub).map fun t => entries.put key (.table origin t)
    | some (.tables items) =>
      match items.reverse with
      | [] => none
      | last :: before =>
        (changeAt made change path .header last).map fun t =>
          entries.put key (.tables (t :: before).reverse)

def addField (entries : Entries) (path : List String) (key : String) (v : Value) :
    Option Entries :=
  let add (origin : Origin) (t : Entries) : Option Entries :=
    if (origin = .dotted ↔ path ≠ []) ∧ (t.lookup key).isNone then some (t.put key (.leaf v))
    else none
  changeAt .dotted add path .header entries

def passageAt : (path : List String) → Entries → Entries
  | [], _ => []
  | [key], entries =>
    match entries.lookup key with
    | some (.table .passage sub) => sub
    | _ => []
  | key :: path, entries =>
    match entries.lookup key with
    | some (.table _ sub) => passageAt path sub
    | some (.tables items) => passageAt path (items.getLast?.getD [])
    | _ => []

/-- Puts the table of a header in its place; one in an array of tables comes last there. -/
def closeTable (entries : Entries) (repeated : Bool) (path : List String) (t : Entries) :
    Option Entries :=
  match path.reverse with
  | [] => some t
  | key :: parents =>
    let place (_ : Origin) (parent : Entries) : Option Entries :=
      match repeated, parent.lookup key with
      | false, none | false, some (.table .passage _) => some (parent.put key (.table .header t))
      | true, none => some (parent.put key (.tables [t]))
      | true, some (.tables items) => some (parent.put key (.tables (items ++ [t])))
      | _, _ => none
    changeAt .passage place parents.reverse .header entries

end Entries

mutual

def Node.value : Node → Value
  | .leaf v => v
  | .table _ entries => .table (valueFields entries)
  | .tables items => .list (valueItems items)

def valueFields : List (String × Node) → List (String × Value)
  | [] => []
  | (key, n) :: rest => (key, n.value) :: valueFields rest

def valueItems : List (List (String × Node)) → List Value
  | [] => []
  | t :: rest => .table (valueFields t) :: valueItems rest

end

end NumaFabric.Settings.Toml
