import NumaFabric.Text.Quoted
/-!
Parts of a text by the places of their bytes in UTF-8. A place between two characters cuts the text
there; a place inside a character cuts nothing and is told together with that character.
-/

namespace NumaFabric.Text

def byteSize : List Char → Nat
  | [] => 0
  | c :: rest => c.utf8Size + byteSize rest

/-- A place inside a character. -/
structure SplitCharacter where
  /-- The part ends there, and does not begin there. -/
  isEnd : Bool
  place : Nat
  char : Char
  start : Nat
deriving DecidableEq

namespace SplitCharacter

def message (e : SplitCharacter) : String :=
  let side := if e.isEnd then "end" else "start"
  let stop := e.start + e.char.utf8Size
  s!"{side} byte index {e.place} is not a char boundary; it is inside {quoteOne e.char} " ++
    s!"(bytes {e.start}..{stop} of string)"

end SplitCharacter

/-- What stands before a place and from it on, in a text whose first character begins at `start`; or
the character around the place, and where it begins. -/
def cutFrom (start place : Nat) : List Char → Except (Char × Nat) (List Char × List Char)
  | [] => .ok ([], [])
  | c :: rest =>
    if place ≤ start then .ok ([], c :: rest)
    else if place < start + c.utf8Size then .error (c, start)
    else (cutFrom (start + c.utf8Size) place rest).map fun p => (c :: p.1, p.2)

/-- The part between two places, the first of which is not after the second. -/
def slice (s : List Char) (first last : Nat) : Except SplitCharacter (List Char) :=
  match cutFrom 0 first s, cutFrom 0 last s with
  | .error (c, start), _ => .error ⟨false, first, c, start⟩
  | _, .error (c, start) => .error ⟨true, last, c, start⟩
  | .ok (before, _), .ok (upTo, _) => .ok (upTo.drop before.length)

end NumaFabric.Text
