namespace NumaFabric

inductive Json where
  | null
  | bool (b : Bool)
  /-- A number without fraction and exponent, from `-2^63` to below `2^64`. -/
  | int (n : Int)
  /-- Any other number, as written. -/
  | real (literal : String)
  | str (s : String)
  | arr (items : List Json)
  | obj (fields : List (String × Json))
  /-- Well formed, with half a surrogate pair in a text or a number out of range. -/
  | unreadable

namespace Json

instance : Inhabited Json := ⟨null⟩

def ofNat (n : Nat) : Json := int n

def ofOption {α : Type} (f : α → Json) : Option α → Json
  | none => null
  | some a => f a

def ofList {α : Type} (f : α → Json) (l : List α) : Json := arr (l.map f)

mutual

def depth : Json → Nat
  | arr items => depthOfItems items + 1
  | obj fields => depthOfFields fields + 1
  | _ => 0

def depthOfItems : List Json → Nat
  | [] => 0
  | j :: rest => max j.depth (depthOfItems rest)

def depthOfFields : List (String × Json) → Nat
  | [] => 0
  | (_, j) :: rest => max j.depth (depthOfFields rest)

end

mutual

def isReadable : Json → Bool
  | arr items => itemsReadable items
  | obj fields => fieldsReadable fields
  | unreadable => false
  | _ => true

def itemsReadable : List Json → Bool
  | [] => true
  | j :: rest => j.isReadable && itemsReadable rest

def fieldsReadable : List (String × Json) → Bool
  | [] => true
  | (_, j) :: rest => j.isReadable && fieldsReadable rest

end

end Json

end NumaFabric
