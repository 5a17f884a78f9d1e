import NumaFabric.Wire.Frame

namespace NumaFabric

inductive TransferError where
  | interfaceNotFound (name : String)
  | interfaceDown (name : String)
  | noInterfaceAddress (name : String)
  | notInitialized
  | alreadyInitialized
  | closed
  | noPeer
  | alreadyRegistered (base : Address)
  | notRegistered (base : Address)
  | frameTooLarge (length limit : Nat)
  | shortSend (sent expected : Nat)
  | codec (cause : Wire.CodecError)
  /-- The machine refused, in words of its own. -/
  | machine
deriving DecidableEq

namespace TransferError

def kind : TransferError → String
  | interfaceNotFound _ => "InterfaceNotFound"
  | interfaceDown _ => "InterfaceDown"
  | noInterfaceAddress _ => "NoInterfaceAddress"
  | notInitialized => "NotInitialized"
  | alreadyInitialized => "AlreadyInitialized"
  | closed => "Closed"
  | noPeer => "NoPeer"
  | alreadyRegistered _ => "AlreadyRegistered"
  | notRegistered _ => "NotRegistered"
  | frameTooLarge _ _ => "FrameTooLarge"
  | shortSend _ _ => "ShortSend"
  | codec _ => "Codec"
  | machine => "Io"

def message? : TransferError → Option String
  | interfaceNotFound name => some ("interface " ++ name ++ " not found")
  | interfaceDown name => some ("interface " ++ name ++ " is down")
  | noInterfaceAddress name => some ("interface " ++ name ++ " has no usable address")
  | notInitialized => some "transport is not initialised"
  | alreadyInitialized => some "transport is already initialised"
  | closed => some "transport is closed"
  | noPeer => some "transport has no peer to send to"
  | alreadyRegistered base => some ("region at " ++ base.text ++ " is already registered")
  | notRegistered base => some ("region at " ++ base.text ++ " is not registered")
  | frameTooLarge length limit =>
    some s!"frame of {length} bytes exceeds the {limit}-byte datagram limit"
  | shortSend sent expected => some s!"short send: {sent} of {expected} bytes"
  | codec cause => some ("encode failed: " ++ cause.message)
  | machine => none

def message (e : TransferError) : String := e.message?.getD "I/O error"

/-- The transport that failed this way is of no more use. -/
def breaksLink : TransferError → Bool
  | closed | notInitialized => true
  | _ => false

end TransferError

end NumaFabric
