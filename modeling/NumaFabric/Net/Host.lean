import NumaFabric.Link.TransferError
import NumaFabric.Net.IpAddress
import NumaFabric.Text.Quoted

namespace NumaFabric

structure SystemError where
  code : Nat
  kind : String
  words : String
deriving DecidableEq

namespace SystemError

def networkUnreachable : SystemError := ⟨101, "NetworkUnreachable", "Network is unreachable"⟩

def message (e : SystemError) : String := s!"{e.words} (os error {e.code})"

def debugText (e : SystemError) : String :=
  s!"Os \x7b code: {e.code}, kind: {e.kind}, message: " ++ Text.quote e.words ++ " \x7d"

end SystemError

structure Interface where
  name : String
  isUp : Bool
  addresses : List IpAddress

structure Host where
  interfaces : List Interface

namespace Host

def hasNetwork (h : Host) : Bool := h.interfaces.any (·.isUp)

/-- What becomes of the first packet to another socket. -/
def reach (h : Host) : Except SystemError Unit :=
  if h.hasNetwork then .ok () else .error .networkUnreachable

def interface (h : Host) (name : String) : Except TransferError Interface :=
  match h.interfaces.find? fun i => i.name == name with
  | none => .error (.interfaceNotFound name)
  | some i => if i.isUp then .ok i else .error (.interfaceDown name)

def bindAddress (h : Host) (name : String) : Except TransferError IpAddress := do
  let i ← h.interface name
  match IpAddress.preferred? i.addresses with
  | some ip => return ip
  | none => throw (.noInterfaceAddress name)

end Host

end NumaFabric
