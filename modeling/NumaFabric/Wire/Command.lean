import NumaFabric.Text.Numeral
import NumaFabric.Wire.Checksum

namespace NumaFabric

/-- A place in the address space that all nodes share. -/
abbrev Address := UInt64

namespace Address

def text (a : Address) : String := Text.hex a.toNat

def debugText (a : Address) : String := "AddressHandle(" ++ text a ++ ")"

/-- The address `offset` further on, unless that is past the end of the space. -/
def offset? (a : Address) (offset : UInt64) : Option Address :=
  if a.toNat + offset.toNat < UInt64.size then some (a + offset) else none

end Address

namespace Wire

inductive Operation where
  | copy
  | set
deriving DecidableEq

namespace Operation

def code : Operation → UInt8
  | copy => 1
  | set => 2

def ofCode? : UInt8 → Option Operation
  | 1 => some copy
  | 2 => some set
  | _ => none

def text : Operation → String
  | copy => "copy"
  | set => "set"

theorem ofCode?_code (op : Operation) : ofCode? op.code = some op := by cases op <;> rfl

theorem code_of_ofCode? {b : UInt8} {op : Operation} (h : ofCode? b = some op) : b = op.code := by
  unfold ofCode? at h
  split at h <;> simp_all [code] <;> subst h <;> rfl

end Operation

structure Command where
  operation : Operation
  destination : Address
  /-- The CRC-32 that the sender claims for the payload. -/
  checksum : UInt32
  payload : List UInt8
deriving DecidableEq

namespace Command

def of (operation : Operation) (destination : Address) (payload : List UInt8) : Command :=
  ⟨operation, destination, Wire.checksum payload, payload⟩

def copy (destination : Address) (payload : List UInt8) : Command := of .copy destination payload

def fill (destination : Address) (value : UInt8) (length : Nat) : Command :=
  of .set destination (List.replicate length value)

/-- The payload's length as the 32-bit field holds it. -/
def dataSize (c : Command) : UInt32 := UInt32.ofNat c.payload.length

def withFreshChecksum (c : Command) : Command := of c.operation c.destination c.payload

def IsIntact (c : Command) : Prop := c.checksum = Wire.checksum c.payload

instance (c : Command) : Decidable c.IsIntact := inferInstanceAs (Decidable (_ = _))

theorem isIntact_of (op : Operation) (a : Address) (p : List UInt8) : (of op a p).IsIntact := rfl

theorem withFreshChecksum_of_isIntact {c : Command} (h : c.IsIntact) :
    c.withFreshChecksum = c := by
  cases c
  simp_all [IsIntact, withFreshChecksum, of]

end Command

end Wire

end NumaFabric
