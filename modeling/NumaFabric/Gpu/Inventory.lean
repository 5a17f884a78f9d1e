import NumaFabric.Gpu.Device
import NumaFabric.Json.Parser
import NumaFabric.Text.Blank
import NumaFabric.Text.Quoted
import NumaFabric.Text.Split
import NumaFabric.Text.Utf8

namespace NumaFabric

open NumaFabric.Text

inductive InventoryError where
  | unreadable
  | notList
  | duplicateUuid (uuid : String)
  | invalidMemory (line : Nat) (value : String)

namespace InventoryError

def kind : InventoryError → String
  | unreadable => "Io"
  | notList => "Json"
  | duplicateUuid _ => "DuplicateUuid"
  | invalidMemory _ _ => "InvalidMemory"

/-- The message, where it holds no text of the machine. -/
def message? : InventoryError → Option String
  | unreadable | notList => none
  | duplicateUuid uuid => some ("duplicate GPU uuid " ++ uuid)
  | invalidMemory line value => some (s!"line {line}: invalid memory value " ++ quote value)

end InventoryError

namespace Inventory

def mib : Nat := 1024 * 1024

def repeatedUuid? (seen : List String) : List Gpu → Option String
  | [] => none
  | g :: gpus => if seen.contains g.uuid then some g.uuid else repeatedUuid? (g.uuid :: seen) gpus

def rejectDuplicates (gpus : List Gpu) : Except InventoryError (List Gpu) :=
  match repeatedUuid? [] gpus with
  | some uuid => .error (.duplicateUuid uuid)
  | none => .ok gpus

/-- An entry of the JSON list. Where nothing is said of free memory, all of it is. -/
def entry? (j : Json) : Option Gpu := do
  let r ← j.record? ["uuid", "name", "total_memory_bytes", "free_memory_bytes"]
  let uuid ← r.required "uuid" Json.toString?
  let name ← r.required "name" Json.toString?
  let total ← r.required "total_memory_bytes" Json.toUInt64?
  let free ← r.defaulted "free_memory_bytes" none (Json.toOption? Json.toUInt64?)
  return Gpu.of uuid name total (free.getD total)

def parseJson (text : String) : Except InventoryError (List Gpu) :=
  match (Json.parse? text).bind (Json.toList? entry?) with
  | none => .error .notList
  | some gpus => rejectDuplicates gpus

/-- A memory size in MiB; a marker of an unknown size reads as zero. -/
def memory (line : Nat) (value : List Char) : Except InventoryError UInt64 :=
  if value = "[N/A]".toList ∨ value = "N/A".toList then .ok 0
  else
    match unsigned? UInt64.size value with
    | some n => .ok (UInt64.ofNat (n * mib))
    | none => .error (.invalidMemory line (String.ofList value))

def line (number : Nat) (s : List Char) : Except InventoryError (Option Gpu) :=
  match (splitAll ',' s).map trim with
  | uuid :: name :: total :: free :: _ => do
    let total ← memory number total
    let free ← memory number free
    return some (Gpu.of (String.ofList uuid) (String.ofList name) total free)
  | _ => .ok none

def gpuLines : Nat → List (List Char) → Except InventoryError (List Gpu)
  | _, [] => .ok []
  | number, s :: rest => do
    let g ← line number s
    let gpus ← gpuLines (number + 1) rest
    return g.toList ++ gpus

def parseCsv (text : String) : Except InventoryError (List Gpu) := do
  rejectDuplicates (← gpuLines 1 (lines text.toList))

def extension? (name : String) : Option (List Char) :=
  let cs := name.toList
  let ext := (cs.reverse.takeWhile (· != '.')).reverse
  let stem := cs.take (cs.length - ext.length - 1)
  if ext.length < cs.length && !stem.isEmpty && cs != ['.', '.'] then some ext else none

/-- Files named `.csv`, in either case, hold lines; all others hold JSON. -/
def isCsv (name : String) : Bool :=
  match extension? name with
  | some ext => ext.map Char.toLower == ['c', 's', 'v']
  | none => false

def load (name : String) (file : Option (List UInt8)) : Except InventoryError (List Gpu) :=
  match file.bind utf8Decode? with
  | none => .error .unreadable
  | some text => if isCsv name then parseCsv text else parseJson text

end Inventory

end NumaFabric
