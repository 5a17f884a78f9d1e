import NumaFabric.Settings.Value

namespace NumaFabric.Settings

/-- The keys that lead to a value. -/
abbrev KeyPath := List String

namespace KeyPath

def text (path : KeyPath) : String := ".".intercalate path

end KeyPath

abbrev Read (α : Type) := Value → Except KeyPath α

def natBelow (bound : Nat) : Read Nat
  | .int n => if 0 ≤ n ∧ n.toNat < bound then .ok n.toNat else .error []
  | _ => .error []

def uint16 : Read UInt16 := fun v => (natBelow UInt16.size v).map UInt16.ofNat

def uint32 : Read UInt32 := fun v => (natBelow UInt32.size v).map UInt32.ofNat

def uint64 : Read UInt64 := fun v => (natBelow UInt64.size v).map UInt64.ofNat

def string : Read String
  | .text s => .ok s
  | _ => .error []

def boolean : Read Bool
  | .bool b => .ok b
  | _ => .error []

/-- A value under a key, and the key in front of what is wrong with it. -/
def under {α : Type} (key : String) (read : Read α) : Read α := fun v =>
  (read v).mapError (key :: ·)

namespace Fields

def optional {α : Type} (fields : Fields) (key : String) (read : Read α) :
    Except KeyPath (Option α) :=
  match fields.lookup key with
  | none => .ok none
  | some v => (under key read v).map some

/-- A field that must be there; the table is at fault if it is not. -/
def required {α : Type} (fields : Fields) (key : String) (read : Read α) : Except KeyPath α :=
  match fields.lookup key with
  | none => .error []
  | some v => under key read v

end Fields

end NumaFabric.Settings
