import NumaFabric.Wire.Command
import NumaFabric.Wire.Word
/-!
Commands as bytes. The header has 32 bytes: the operation's code, the destination in eight bytes,
the payload's length in four, and reserved bytes that are written as zero and not looked at. The
payload follows. A frame, the form that crosses from node to node, ends in the checksum of the
payload; the bare form has none. Integers are little-endian, and bytes after the end do not matter.
-/

namespace NumaFabric.Wire

def headerLength : Nat := 32

def checksumLength : Nat := 4

inductive CodecError where
  | headerTooShort (length : Nat)
  | unknownOperation (code : UInt8)
  | sizeMismatch (required available : Nat)
  | checksumMismatch (expected actual : UInt32)
  | payloadTooLarge (length : Nat)
deriving DecidableEq

/-- What counters tell apart. -/
inductive CodecErrorClass where
  | format
  | sizeMismatch
  | checksum
deriving DecidableEq

def CodecErrorClass.text : CodecErrorClass → String
  | .format => "Format"
  | .sizeMismatch => "SizeMismatch"
  | .checksum => "Checksum"

namespace CodecError

def errorClass : CodecError → CodecErrorClass
  | headerTooShort _ | unknownOperation _ | payloadTooLarge _ => .format
  | sizeMismatch _ _ => .sizeMismatch
  | checksumMismatch _ _ => .checksum

def kind : CodecError → String
  | headerTooShort _ => "HeaderTooShort"
  | unknownOperation _ => "UnknownOperation"
  | sizeMismatch _ _ => "SizeMismatch"
  | checksumMismatch _ _ => "ChecksumMismatch"
  | payloadTooLarge _ => "PayloadTooLarge"

def message : CodecError → String
  | headerTooShort length =>
    s!"format error: buffer of {length} bytes is shorter than the 32-byte header"
  | unknownOperation code => s!"format error: unknown operation code {code.toNat}"
  | sizeMismatch required available =>
    s!"size mismatch: frame needs {required} bytes but only {available} are present"
  | checksumMismatch expected actual =>
    "checksum mismatch: expected " ++ Text.hexWord expected.toNat ++ ", computed " ++
      Text.hexWord actual.toNat
  | payloadTooLarge length => s!"payload of {length} bytes does not fit the 32-bit length field"

end CodecError

structure Header where
  operation : Operation
  destination : Address
  dataSize : UInt32
deriving DecidableEq

def Command.framedLength (c : Command) : Nat := headerLength + c.payload.length + checksumLength

def Command.verify (c : Command) : Except CodecError Unit :=
  let actual := Wire.checksum c.payload
  if actual = c.checksum then .ok () else .error (.checksumMismatch c.checksum actual)

def encodeHeader (c : Command) : List UInt8 :=
  c.operation.code :: (littleEndian 8 c.destination.toNat ++ littleEndian 4 c.dataSize.toNat ++
    List.replicate 19 0)

/-- The longest payload whose length the header can hold. -/
def maxPayload : Nat := UInt32.size - 1

def encode (c : Command) : Except CodecError (List UInt8) :=
  if c.payload.length > maxPayload then .error (.payloadTooLarge c.payload.length)
  else .ok (encodeHeader c ++ c.payload)

def encodeFramed (c : Command) : Except CodecError (List UInt8) :=
  if c.payload.length > maxPayload then .error (.payloadTooLarge c.payload.length)
  else .ok (encodeHeader c ++ c.payload ++ littleEndian 4 c.checksum.toNat)

def decodeHeader (bytes : List UInt8) : Except CodecError Header :=
  if bytes.length < headerLength then .error (.headerTooShort bytes.length)
  else
    let code := bytes.headD 0
    match Operation.ofCode? code with
    | none => .error (.unknownOperation code)
    | some operation =>
      .ok { operation
            destination := UInt64.ofNat (ofLittleEndian ((bytes.drop 1).take 8))
            dataSize := UInt32.ofNat (ofLittleEndian ((bytes.drop 9).take 4)) }

/-- Reads the bare form; the checksum is the one that the payload has. -/
def decode (bytes : List UInt8) : Except CodecError Command := do
  let header ← decodeHeader bytes
  let required := headerLength + header.dataSize.toNat
  if bytes.length < required then throw (.sizeMismatch required bytes.length)
  let payload := (bytes.drop headerLength).take header.dataSize.toNat
  return Command.of header.operation header.destination payload

def decodeFramed (bytes : List UInt8) : Except CodecError Command := do
  let header ← decodeHeader bytes
  let payloadEnd := headerLength + header.dataSize.toNat
  let required := payloadEnd + checksumLength
  if bytes.length < required then throw (.sizeMismatch required bytes.length)
  let payload := (bytes.drop headerLength).take header.dataSize.toNat
  let expected := UInt32.ofNat (ofLittleEndian ((bytes.drop payloadEnd).take checksumLength))
  let actual := Wire.checksum payload
  if expected = actual then return ⟨header.operation, header.destination, expected, payload⟩
  else throw (.checksumMismatch expected actual)

end NumaFabric.Wire
