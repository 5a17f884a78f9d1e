import NumaFabric.Net.IpAddress

namespace NumaFabric

open NumaFabric.Text

structure SocketAddress where
  ip : IpAddress
  scope : UInt32
  port : UInt16
deriving DecidableEq

namespace SocketAddress

def of (ip : IpAddress) (port : UInt16) : SocketAddress := ⟨ip, 0, port⟩

def number? (bound : Nat) (s : List Char) : Option (Nat × List Char) :=
  match digits? 10 (s.takeWhile Char.isDigit) with
  | some n => if n < bound then some (n, s.dropWhile Char.isDigit) else none
  | none => none

def port? : List Char → Option UInt16
  | ':' :: s =>
    match number? UInt16.size s with
    | some (n, []) => some (UInt16.ofNat n)
    | _ => none
  | _ => none

def parse? (s : List Char) : Option SocketAddress :=
  match s with
  | '[' :: s =>
    match Ipv6.read? s with
    | some (ip, '%' :: s) =>
      match number? UInt32.size s with
      | some (scope, ']' :: s) => (port? s).map fun p => ⟨.v6 ip, UInt32.ofNat scope, p⟩
      | _ => none
    | some (ip, ']' :: s) => (port? s).map fun p => ⟨.v6 ip, 0, p⟩
    | _ => none
  | s =>
    match Ipv4.read? s with
    | some (ip, s) => (port? s).map fun p => ⟨.v4 ip, 0, p⟩
    | none => none

def render (a : SocketAddress) : List Char :=
  match a.ip with
  | .v4 ip => ip.render ++ ':' :: decimal a.port.toNat
  | .v6 ip =>
    let zone := if a.scope = 0 then [] else '%' :: decimal a.scope.toNat
    '[' :: ip.render ++ zone ++ ']' :: ':' :: decimal a.port.toNat

def text (a : SocketAddress) : String := String.ofList a.render

end SocketAddress

end NumaFabric
