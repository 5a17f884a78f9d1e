import NumaFabric.Link.TransferError
import NumaFabric.Memory.Region
import NumaFabric.Store.OrderedMap

namespace NumaFabric

structure RegistrationHandle where
  id : UInt64
  region : Region
deriving DecidableEq

structure RegistrationTable where
  live : OrderedMap Address RegistrationHandle
  lastId : UInt64

namespace RegistrationTable

def empty : RegistrationTable := ⟨.empty, 0⟩

def register (t : RegistrationTable) (region : Region) :
    Except TransferError (RegistrationHandle × RegistrationTable) :=
  if t.live.contains region.base then .error (.alreadyRegistered region.base)
  else
    let handle : RegistrationHandle := ⟨t.lastId + 1, region⟩
    .ok (handle, ⟨t.live.insert region.base handle, t.lastId + 1⟩)

def unregister (t : RegistrationTable) (handle : RegistrationHandle) :
    Except TransferError RegistrationTable :=
  match t.live.get? handle.region.base with
  | some live =>
    if live.id = handle.id then .ok { t with live := t.live.erase handle.region.base }
    else .error (.notRegistered handle.region.base)
  | none => .error (.notRegistered handle.region.base)

def isRegistered (t : RegistrationTable) (base : Address) : Bool := t.live.contains base

def size (t : RegistrationTable) : Nat := t.live.size

def clear (t : RegistrationTable) : Nat × RegistrationTable :=
  (t.size, { t with live := .empty })

end RegistrationTable

end NumaFabric
