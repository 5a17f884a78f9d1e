import NumaFabric.Json.Basic
/-!
Reading domain values out of JSON. A record is read from an object, whose other fields do not
matter and whose own must not repeat, or from an array that lists its fields in order. A tagged
value carries the name of its form in one field, or as the first item of an array.
-/

namespace NumaFabric.Json

def toNat? (bound : Nat) : Json → Option Nat
  | int n => if 0 ≤ n ∧ n.toNat < bound then some n.toNat else none
  | _ => none

def toUInt64? (j : Json) : Option UInt64 := (j.toNat? UInt64.size).map UInt64.ofNat

def toUInt32? (j : Json) : Option UInt32 := (j.toNat? UInt32.size).map UInt32.ofNat

def toUInt16? (j : Json) : Option UInt16 := (j.toNat? UInt16.size).map UInt16.ofNat

def toBool? : Json → Option Bool
  | bool b => some b
  | _ => none

def toString? : Json → Option String
  | str s => some s
  | _ => none

def toOption? {α : Type} (read : Json → Option α) : Json → Option (Option α)
  | null => some none
  | j => (read j).map some

def toList? {α : Type} (read : Json → Option α) : Json → Option (List α)
  | arr items => items.mapM read
  | _ => none

structure Record where
  byPosition : Bool
  fields : List (String × Json)

/-- The fields called `names` of an object or, in that order, of an array. -/
def record? (names : List String) : Json → Option Record
  | obj fields =>
    let known := fields.filter fun f => names.contains f.1
    if (known.map (·.1)).Nodup then some ⟨false, known⟩ else none
  | arr items => if items.length ≤ names.length then some ⟨true, names.zip items⟩ else none
  | _ => none

namespace Record

def get? (r : Record) (name : String) : Option Json := r.fields.lookup name

def required {α : Type} (r : Record) (name : String) (read : Json → Option α) : Option α :=
  (r.get? name).bind read

def optional {α : Type} (r : Record) (name : String) (read : Json → Option α) :
    Option (Option α) :=
  match r.get? name with
  | some j => toOption? read j
  | none => if r.byPosition then none else some none

def defaulted {α : Type} (r : Record) (name : String) (fallback : α) (read : Json → Option α) :
    Option α :=
  match r.get? name with
  | some j => read j
  | none => some fallback

end Record

/-- The deepest nesting that a tagged value may have: it is held as a whole before it is read. -/
def heldDepth : Nat := 127

def tagged? (tag : String) (j : Json) : Option (String × Json) :=
  if j.isReadable && j.depth ≤ heldDepth then
    match j with
    | obj fields =>
      match fields.filter fun f => f.1 == tag with
      | [(_, str form)] => some (form, obj (fields.filter fun f => f.1 != tag))
      | _ => none
    | arr (str form :: rest) => some (form, arr rest)
    | _ => none
  else none

/-- What remains of a tagged value whose form has no fields: anything in an object, nothing in an
array. -/
def isBare : Json → Bool
  | obj _ => true
  | arr [] => true
  | _ => false

end NumaFabric.Json
