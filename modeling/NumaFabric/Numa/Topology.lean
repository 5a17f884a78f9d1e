import NumaFabric.Numa.AddressMap
import NumaFabric.Numa.CpuList
import NumaFabric.Text.Utf8

namespace NumaFabric

open NumaFabric.Text

structure Topology where
  cpusOf : OrderedMap NodeId (List Nat)
  nodeOf : OrderedMap Nat NodeId

inductive NodeEntry where
  | listed (cpus : List UInt8)
  /-- A plain file, or a directory without CPU list. -/
  | other

inductive TopologyError where
  | missingDirectory
  | unreadable
  | invalidCpuList (entry : String)
  | noNodes
  | unknownCpus (cpus : List Nat)
  | spansNodes (nodes : List NodeId)
  /-- A list could not be held, and reading broke down with these words. -/
  | breakdown (words : String)

namespace TopologyError

def kind : TopologyError → String
  | missingDirectory => "MissingNodeDir"
  | unreadable => "Io"
  | invalidCpuList _ => "InvalidCpuList"
  | noNodes => "NoNodes"
  | unknownCpus _ => "UnknownCpus"
  | spansNodes _ => "SpansNodes"
  | breakdown _ => "Breakdown"

def listText (items : List String) : String := "[" ++ ", ".intercalate items ++ "]"

def message? : TopologyError → Option String
  | missingDirectory | unreadable => none
  | invalidCpuList entry => some ("invalid cpulist entry: " ++ entry)
  | noNodes => some "no NUMA nodes found"
  | unknownCpus cpus =>
    some ("none of CPUs " ++ listText (cpus.map fun c => String.ofList (decimal c)) ++
      " belong to a known NUMA node")
  | spansNodes nodes =>
    some ("CPU affinity spans NUMA nodes " ++
      listText (nodes.map fun n => "node" ++ String.ofList (decimal n.toNat)))
  | breakdown words => some words

def ofCpuList : CpuList.Failure → TopologyError
  | .invalid entry => invalidCpuList entry
  | .tooLong => breakdown CpuList.tooLongMessage

end TopologyError

namespace Topology

def empty : Topology := ⟨.empty, .empty⟩

def insert (t : Topology) (node : NodeId) (cpus : List Nat) : Topology where
  cpusOf := t.cpusOf.insert node cpus
  nodeOf := cpus.foldl (fun m c => m.insert c node) t.nodeOf

def ofNodes (nodes : List (NodeId × List Nat)) : Topology :=
  nodes.foldl (fun t n => t.insert n.1 n.2) empty

def nodeNumber? (name : String) : Option NodeId :=
  match name.toList with
  | 'n' :: 'o' :: 'd' :: 'e' :: digits => (unsigned? UInt32.size digits).map UInt32.ofNat
  | _ => none

def addEntry (t : Topology) (entry : String × NodeEntry) : Except TopologyError Topology :=
  match nodeNumber? entry.1, entry.2 with
  | some node, .listed bytes =>
    match utf8Decode? bytes with
    | none => .error .unreadable
    | some text =>
      match CpuList.parse (trim text.toList) with
      | .ok cpus => .ok (t.insert node cpus)
      | .error e => .error (.ofCpuList e)
  | _, _ => .ok t

/-- Reads a directory of nodes; entries with other names are passed over. -/
def ofDirectory : Option (List (String × NodeEntry)) → Except TopologyError Topology
  | none => .error .missingDirectory
  | some entries => do
    let t ← entries.foldlM addEntry empty
    if t.cpusOf.isEmpty then throw .noNodes
    return t

def nodeIds (t : Topology) : List NodeId := t.cpusOf.keys

def numNodes (t : Topology) : Nat := t.cpusOf.size

def isSingleNode (t : Topology) : Bool := t.numNodes == 1

def cpusForNode? (t : Topology) (node : NodeId) : Option (List Nat) := t.cpusOf.get? node

def nodeForCpu? (t : Topology) (cpu : Nat) : Option NodeId := t.nodeOf.get? cpu

def nodesOfCpus (t : Topology) (cpus : List Nat) : List NodeId :=
  (OrderedMap.ofList ((cpus.filterMap t.nodeForCpu?).map fun n => (n, ()))).keys

/-- The one node of the CPUs; those of no node do not count. -/
def nodeForCpus (t : Topology) (cpus : List Nat) : Except TopologyError NodeId :=
  match t.nodesOfCpus cpus with
  | [] => .error (.unknownCpus cpus)
  | [node] => .ok node
  | nodes => .error (.spansNodes nodes)

end Topology

end NumaFabric
