import NumaFabric.Wire.Word

namespace NumaFabric.Rpc

open NumaFabric.Wire

/-- The longest message, 16 MiB. -/
def maxFrame : Nat := 16 * 1024 * 1024

inductive FrameError where
  | tooBig
  | bytesRemaining
deriving DecidableEq

namespace FrameError

def kind : FrameError → String
  | tooBig => "FrameTooBig"
  | bytesRemaining => "BytesRemaining"

end FrameError

def lengthBytes : Nat := 4

def encodeFrame (message : List UInt8) : Except FrameError (List UInt8) :=
  if message.length > maxFrame then .error .tooBig
  else .ok (bigEndian lengthBytes message.length ++ message)

/-- What has arrived and was not given back, and the length of the message that it begins, once that
was taken off. -/
structure FrameReader where
  buffer : List UInt8
  expected : Option Nat

namespace FrameReader

def empty : FrameReader := ⟨[], none⟩

def feed (r : FrameReader) (bytes : List UInt8) : FrameReader :=
  { r with buffer := r.buffer ++ bytes }

def readLength (r : FrameReader) : Except FrameError FrameReader :=
  match r.expected with
  | some _ => .ok r
  | none =>
    if r.buffer.length < lengthBytes then .ok r
    else
      let n := ofBigEndian (r.buffer.take lengthBytes)
      if n > maxFrame then .error .tooBig else .ok ⟨r.buffer.drop lengthBytes, some n⟩

def next (r : FrameReader) : Except FrameError (Option (List UInt8) × FrameReader) := do
  let r ← r.readLength
  match r.expected with
  | none => return (none, r)
  | some n =>
    if r.buffer.length < n then return (none, r)
    else return (some (r.buffer.take n), ⟨r.buffer.drop n, none⟩)

def takeFrames : (fuel : Nat) → FrameReader → List (List UInt8) × Except FrameError FrameReader
  | 0, r => ([], .ok r)
  | fuel + 1, r =>
    match r.next with
    | .error e => ([], .error e)
    | .ok (none, r) => ([], .ok r)
    | .ok (some frame, r) =>
      let (frames, r) := takeFrames fuel r
      (frame :: frames, r)

/-- All whole messages: each but the first took four bytes off the buffer. -/
def frames (r : FrameReader) : List (List UInt8) × Except FrameError FrameReader :=
  takeFrames (r.buffer.length + 1) r

/-- What the end of the stream leaves: a message, nothing, or bytes that belong to none. -/
def finish (r : FrameReader) : Except FrameError (Option (List UInt8)) := do
  match ← r.next with
  | (some frame, _) => return some frame
  | (none, r) => if r.buffer.isEmpty then return none else throw .bytesRemaining

end FrameReader

end NumaFabric.Rpc
