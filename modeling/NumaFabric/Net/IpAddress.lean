import NumaFabric.Text.Numeral

namespace NumaFabric

open NumaFabric.Text

structure Ipv4 where
  a : UInt8
  b : UInt8
  c : UInt8
  d : UInt8
deriving DecidableEq

structure Ipv6 where
  groups : Vector UInt16 8
deriving DecidableEq

inductive IpAddress where
  | v4 (address : Ipv4)
  | v6 (address : Ipv6)
deriving DecidableEq

namespace Ipv4

def render (ip : Ipv4) : List Char :=
  decimal ip.a.toNat ++ '.' :: decimal ip.b.toNat ++ '.' :: decimal ip.c.toNat ++
    '.' :: decimal ip.d.toNat

/-- One to three digits for a number below 256, without needless zeros. -/
def byte? (s : List Char) : Option (UInt8 × List Char) :=
  let ds := s.takeWhile Char.isDigit
  if ds.length > 3 || (ds.head? == some '0' && ds.length > 1) then none
  else
    match digits? 10 ds with
    | some n => if n < 256 then some (UInt8.ofNat n, s.dropWhile Char.isDigit) else none
    | none => none

def dot? : List Char → Option (List Char)
  | '.' :: rest => some rest
  | _ => none

def read? (s : List Char) : Option (Ipv4 × List Char) := do
  let (a, s) ← byte? s
  let (b, s) ← byte? (← dot? s)
  let (c, s) ← byte? (← dot? s)
  let (d, s) ← byte? (← dot? s)
  return (⟨a, b, c, d⟩, s)

def high (ip : Ipv4) : UInt16 := UInt16.ofNat (ip.a.toNat * 256 + ip.b.toNat)

def low (ip : Ipv4) : UInt16 := UInt16.ofNat (ip.c.toNat * 256 + ip.d.toNat)

def ofHalves (high low : UInt16) : Ipv4 :=
  ⟨UInt8.ofNat (high.toNat / 256), UInt8.ofNat high.toNat, UInt8.ofNat (low.toNat / 256),
    UInt8.ofNat low.toNat⟩

end Ipv4

namespace Ipv6

def isHexDigit (c : Char) : Bool := (digitValue? 16 c).isSome

def group? (s : List Char) : Option (UInt16 × List Char) :=
  let ds := s.takeWhile isHexDigit
  if ds.length > 4 then none
  else (digits? 16 ds).map fun n => (UInt16.ofNat n, s.dropWhile isHexDigit)

/-- Up to `slots` groups with colons between them, as far as they go. An address of version 4 may
take the place of the last two; the flag tells whether one did. -/
def readGroups : Nat → Bool → List Char → List UInt16 × Bool × List Char
  | 0, _, s => ([], false, s)
  | slots + 1, first, s =>
    let body? : Option (List Char) :=
      if first then some s
      else match s with
        | ':' :: rest => some rest
        | _ => none
    match if slots = 0 then none else body?.bind Ipv4.read? with
    | some (ip, rest) => ([ip.high, ip.low], true, rest)
    | none =>
      match body?.bind group? with
      | some (g, rest) =>
        let (gs, embedded, rest) := readGroups slots false rest
        (g :: gs, embedded, rest)
      | none => ([], false, s)

def ofGroups? (gs : List UInt16) : Option Ipv6 :=
  if h : gs.toArray.size = 8 then some ⟨⟨gs.toArray, h⟩⟩ else none

def read? (s : List Char) : Option (Ipv6 × List Char) :=
  let (front, embedded, rest) := readGroups 8 true s
  if front.length = 8 then (ofGroups? front).map fun ip => (ip, rest)
  else if embedded then none
  else
    match rest with
    | ':' :: ':' :: rest =>
      let (back, _, rest) := readGroups (7 - front.length) true rest
      let zeros := List.replicate (8 - front.length - back.length) 0
      (ofGroups? (front ++ zeros ++ back)).map fun ip => (ip, rest)
    | _ => none

def zeroRun (gs : List UInt16) : Nat := (gs.takeWhile (· == 0)).length

/-- Position and length of the longest run of zero groups, the first of several; of length 0 when
there is none. -/
def longestZeroRun : Nat → List UInt16 → Nat × Nat
  | _, [] => (0, 0)
  | position, g :: gs =>
    let here := zeroRun (g :: gs)
    let later := longestZeroRun (position + 1) gs
    if here ≥ later.2 && here > 0 then (position, here) else later

def renderGroups (gs : List UInt16) : List Char :=
  List.intercalate [':'] (gs.map fun g => Nat.toDigits 16 g.toNat)

def render (ip : Ipv6) : List Char :=
  match ip.groups.toList with
  | [0, 0, 0, 0, 0, 0xffff, high, low] =>
    "::ffff:".toList ++ (Ipv4.ofHalves high low).render
  | gs =>
    let (start, length) := longestZeroRun 0 gs
    if length > 1 then
      renderGroups (gs.take start) ++ [':', ':'] ++ renderGroups (gs.drop (start + length))
    else renderGroups gs

end Ipv6

namespace IpAddress

def render : IpAddress → List Char
  | v4 ip => ip.render
  | v6 ip => ip.render

def text (ip : IpAddress) : String := String.ofList ip.render

def parse? (s : List Char) : Option IpAddress :=
  match Ipv4.read? s with
  | some (ip, []) => some (v4 ip)
  | _ =>
    match Ipv6.read? s with
    | some (ip, []) => some (v6 ip)
    | _ => none

def isV4 : IpAddress → Bool
  | v4 _ => true
  | v6 _ => false

def preferred? (addresses : List IpAddress) : Option IpAddress :=
  (addresses.find? isV4).or addresses.head?

end IpAddress

end NumaFabric
