import NumaFabric.Json.Parser
import NumaFabric.Json.Reader
import NumaFabric.Net.IpAddress
import NumaFabric.Numa.AddressMap
import NumaFabric.Text.Blank
import NumaFabric.Text.Quoted
/-!
The route table: at which IP address a node is reached. A table is read from a JSON object of
strings as a whole, in the order of its keys; where two keys mean the same node the later one
counts. A table is replaced as a whole or not at all.
-/

namespace NumaFabric

open NumaFabric.Text

abbrev RouteTable := OrderedMap NodeId IpAddress

inductive RouteTableError where
  | unreadable
  | notStrings
  | invalidNode (key : String)
  | invalidAddress (node : NodeId) (address : String)

namespace RouteTableError

def kind : RouteTableError → String
  | unreadable => "Io"
  | notStrings => "Json"
  | invalidNode _ => "InvalidNode"
  | invalidAddress _ _ => "InvalidAddress"

def message? : RouteTableError → Option String
  | unreadable | notStrings => none
  | invalidNode key => some ("invalid node id " ++ quote key)
  | invalidAddress node address =>
    some ("invalid address " ++ quote address ++ s!" for node {node.toNat}")

end RouteTableError

namespace RouteTable

/-- The entries of an object of strings by their keys; the last of equal keys counts. -/
def strings? : Json → Option (OrderedMap String String)
  | .obj fields =>
    (fields.mapM fun (f : String × Json) => f.2.toString?.map (f.1, ·)).map OrderedMap.ofList
  | _ => none

def route (entry : String × String) : Except RouteTableError (NodeId × IpAddress) :=
  match unsigned? UInt32.size (trim entry.1.toList) with
  | none => .error (.invalidNode entry.1)
  | some n =>
    let node := UInt32.ofNat n
    match IpAddress.parse? (trim entry.2.toList) with
    | none => .error (.invalidAddress node entry.2)
    | some ip => .ok (node, ip)

def parse (text : String) : Except RouteTableError RouteTable :=
  match (Json.parse? text).bind strings? with
  | none => .error .notStrings
  | some entries => do
    let routes ← entries.toList.mapM route
    return OrderedMap.ofList routes

def load : Option String → Except RouteTableError RouteTable
  | none => .error .unreadable
  | some text => parse text

/-- The table after reading a file again: the new one, or `t` if that fails. -/
def reload (t : RouteTable) (file : Option String) : Except RouteTableError Unit × RouteTable :=
  match load file with
  | .ok new => (.ok (), new)
  | .error e => (.error e, t)

end RouteTable

end NumaFabric
