import NumaFabric.Memory.Region
import NumaFabric.Store.OrderedMap
/-!
The memory of one node: mapped regions with their bytes. Reads and writes name a range that must lie
in the region that its first address lies in, and a failed one changes nothing. A region that is
held by someone refuses writes as busy.
-/

namespace NumaFabric

inductive MemoryError where
  | unmapped (address : Address)
  | outOfBounds (address : Address) (length : Nat) (base : Address) (stop : Nat)
  | busy (base : Address)
  | overlap (base : Address) (size : UInt64)
deriving DecidableEq

namespace MemoryError

def isTransient : MemoryError → Bool
  | busy _ => true
  | _ => false

def kind : MemoryError → String
  | unmapped _ => "Unmapped"
  | outOfBounds _ _ _ _ => "OutOfBounds"
  | busy _ => "Busy"
  | overlap _ _ => "Overlap"

def message : MemoryError → String
  | unmapped a => "address " ++ a.text ++ " is not backed by any local region"
  | outOfBounds a length base stop =>
    "range " ++ a.text ++ s!"+{length} exceeds region [" ++ base.text ++ ", " ++
      Text.hex stop ++ ")"
  | busy base => "region at " ++ base.text ++ " is busy"
  | overlap base size =>
    "region [" ++ base.text ++ s!", +{size.toNat}) overlaps an existing region"

end MemoryError

structure HostRegion where
  region : Region
  bytes : List UInt8
  held : Bool
  length_bytes : bytes.length = region.size.toNat

namespace HostRegion

def zeroed (region : Region) : HostRegion where
  region := region
  bytes := List.replicate region.size.toNat 0
  held := false
  length_bytes := by simp

def offset (r : HostRegion) (a : Address) : Nat := a.toNat - r.region.base.toNat

def outside (r : HostRegion) (a : Address) (length : Nat) : MemoryError :=
  .outOfBounds a length r.region.base r.region.stop

def read (r : HostRegion) (a : Address) (length : Nat) : Except MemoryError (List UInt8) :=
  if r.region.Contains a length then .ok ((r.bytes.drop (r.offset a)).take length)
  else .error (r.outside a length)

/-- The range can be written: it is in the region, and nobody holds the region. -/
def grant (r : HostRegion) (a : Address) (length : Nat) : Except MemoryError Unit :=
  if r.region.Contains a length then
    if r.held then .error (.busy r.region.base) else .ok ()
  else .error (r.outside a length)

def overwrite (r : HostRegion) (a : Address) (data : List UInt8)
    (h : r.region.Contains a data.length) : HostRegion where
  region := r.region
  bytes := r.bytes.take (r.offset a) ++ data ++ r.bytes.drop (r.offset a + data.length)
  held := r.held
  length_bytes := by
    have := h.offset_add_le
    have := r.length_bytes
    simp only [offset, List.length_append, List.length_take, List.length_drop]
    omega

end HostRegion

abbrev AddressSpace := OrderedMap Address HostRegion

namespace AddressSpace

inductive MapError where
  | refused (cause : MemoryError)
  | tooLarge
deriving DecidableEq

def tooLargeMessage : String := "capacity overflow"

def maxSize : Nat := UInt64.size / 2 - 1

/-- Maps a region of zero bytes that shares no address with another one. -/
def map (m : AddressSpace) (base : Address) (size : UInt64) :
    Except MapError (Region × AddressSpace) :=
  let region : Region := ⟨base, size⟩
  let overlaps := m.values.any fun r =>
    base.toNat < r.region.stop && r.region.base.toNat < region.stop
  if overlaps || size == 0 then .error (.refused (.overlap base size))
  else if size.toNat > maxSize then .error .tooLarge
  else .ok (region, m.insert base (HostRegion.zeroed region))

def unmap (m : AddressSpace) (base : Address) : Option Region × AddressSpace :=
  ((m.get? base).map (·.region), m.erase base)

def regions (m : AddressSpace) : List Region := m.values.map (·.region)

def regionFor? (m : AddressSpace) (a : Address) : Option HostRegion :=
  ((m.floor? a).map (·.2)).filter fun r => decide (a.toNat < r.region.stop)

def find (m : AddressSpace) (a : Address) : Except MemoryError HostRegion :=
  match m.regionFor? a with
  | some r => .ok r
  | none => .error (.unmapped a)

def read (m : AddressSpace) (a : Address) (length : Nat) : Except MemoryError (List UInt8) := do
  (← m.find a).read a length

def write (m : AddressSpace) (a : Address) (data : List UInt8) :
    Except MemoryError AddressSpace := do
  let r ← m.find a
  if h : r.region.Contains a data.length then
    if r.held then throw (.busy r.region.base)
    return m.insert r.region.base (r.overwrite a data h)
  else throw (r.outside a data.length)

/-- Sets `length` bytes from `a` on to `value`. The range is looked at first, so that a length
beyond every region costs nothing. -/
def fill (m : AddressSpace) (a : Address) (length : Nat) (value : UInt8) :
    Except MemoryError AddressSpace := do
  let r ← m.find a
  r.grant a length
  m.write a (List.replicate length value)

/-- Marks the region that the range lies in as held, and gives its base. -/
def hold (m : AddressSpace) (a : Address) (length : Nat) :
    Except MemoryError (Address × AddressSpace) := do
  let r ← m.find a
  r.grant a length
  return (r.region.base, m.insert r.region.base { r with held := true })

def release (m : AddressSpace) (base : Address) : AddressSpace :=
  m.mapValues fun b r => if b = base then { r with held := false } else r

end AddressSpace

end NumaFabric
