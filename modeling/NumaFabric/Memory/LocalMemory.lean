import NumaFabric.Memory.AddressSpace

namespace NumaFabric

structure LocalMemory where
  space : AddressSpace
  calls : Nat
  /-- Calls ahead that fail. -/
  faults : Nat
  faultBase : Address

namespace LocalMemory

/-- Memory of which no call fails as busy. -/
def of (space : AddressSpace) : LocalMemory := ⟨space, 0, 0, 0⟩

def call (m : LocalMemory) (op : AddressSpace → Except MemoryError AddressSpace) :
    Except MemoryError Unit × LocalMemory :=
  if m.faults > 0 then
    (.error (.busy m.faultBase), { m with calls := m.calls + 1, faults := m.faults - 1 })
  else
    match op m.space with
    | .ok space => (.ok (), { m with space, calls := m.calls + 1 })
    | .error e => (.error e, { m with calls := m.calls + 1 })

def copyIn (m : LocalMemory) (a : Address) (data : List UInt8) :
    Except MemoryError Unit × LocalMemory :=
  m.call fun space => space.write a data

def fill (m : LocalMemory) (a : Address) (length : Nat) (value : UInt8) :
    Except MemoryError Unit × LocalMemory :=
  m.call fun space => space.fill a length value

end LocalMemory

end NumaFabric
