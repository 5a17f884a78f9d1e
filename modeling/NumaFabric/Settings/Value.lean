namespace NumaFabric.Settings

inductive Value where
  | bool (b : Bool)
  | int (n : Int)
  /-- A number with a fraction or an exponent, as written. -/
  | real (literal : String)
  | text (s : String)
  | list (items : List Value)
  | table (fields : List (String × Value))

/-- The fields of a table. No key should stand in it twice; the first one counts. -/
abbrev Fields := List (String × Value)

namespace Fields

/-- Gives a key its value, in place of the one it has. -/
def put (fields : Fields) (key : String) (v : Value) : Fields :=
  match fields with
  | [] => [(key, v)]
  | f :: rest => if f.1 = key then (key, v) :: rest else f :: put rest key v

end Fields

mutual

def Value.over : (lower upper : Value) → Value
  | .table lower, .table upper => .table (Fields.over lower upper)
  | _, upper => upper

def Fields.over : (lower upper : List (String × Value)) → List (String × Value)
  | lower, [] => lower
  | lower, (key, v) :: rest =>
    let merged := match lower.lookup key with
      | some old => Value.over old v
      | none => v
    Fields.over (Fields.put lower key merged) rest

end

def nested : (path : List String) → Value → Value
  | [], v => v
  | key :: path, v => .table [(key, nested path v)]

end NumaFabric.Settings
