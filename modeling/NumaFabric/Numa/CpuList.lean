import NumaFabric.Text.Blank
import NumaFabric.Text.Numeral
import NumaFabric.Text.Split
/-!
CPU lists: numbers and ranges of numbers with commas between them, such as `0-3,8`. Blank parts
count for nothing. The list that is read increases and names every CPU once. Ranges are written out
as they are read, so a list that names too many CPUs cannot be read.
-/

namespace NumaFabric.CpuList

open NumaFabric.Text

inductive Failure where
  | invalid (entry : String)
  /-- The list is longer than the memory of any machine. -/
  | tooLong

/-- How many numbers a list can hold. -/
def maxLength : Nat := UInt64.size / 2 / 8 - 1

def tooLongMessage : String := "capacity overflow"

def number (s : List Char) : Except String Nat :=
  match unsigned? UInt64.size (trim s) with
  | some n => .ok n
  | none => .error (String.ofList s)

def bounds (s : List Char) : Except String (Nat × Nat) :=
  match splitOnce '-' s with
  | some (a, b) => do
    let first ← number a
    let last ← number b
    if first > last then throw (String.ofList s)
    return (first, last)
  | none => do
    let n ← number s
    return (n, n)

def span (first last : Nat) : List Nat := (List.range (last + 1 - first)).map (· + first)

/-- The numbers of some parts, after as many others as `length` says. -/
def writeOut (length : Nat) : List (List Char) → Except Failure (List Nat)
  | [] => .ok []
  | s :: rest =>
    match bounds s with
    | .error entry => .error (.invalid entry)
    | .ok (first, last) =>
      let length := length + (last + 1 - first)
      if maxLength < length then .error .tooLong
      else (writeOut length rest).map (span first last ++ ·)

def dropRepeats : List Nat → List Nat
  | a :: b :: rest => if a = b then dropRepeats (b :: rest) else a :: dropRepeats (b :: rest)
  | l => l

def parts (s : List Char) : List (List Char) :=
  (splitAll ',' s).filter fun p => !(trim p).isEmpty

def parse (s : List Char) : Except Failure (List Nat) :=
  (writeOut 0 (parts s)).map fun numbers => dropRepeats (numbers.mergeSort (· ≤ ·))

def allowed? (status : List Char) : Option (List Nat) :=
  (splitAll '\n' status).findSome? fun line => do
    let (name, list) ← splitOnce ':' line
    if name = "Cpus_allowed_list".toList then (parse (trim list)).toOption else none

end NumaFabric.CpuList
