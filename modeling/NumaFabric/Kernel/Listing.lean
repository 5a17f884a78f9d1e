import NumaFabric.Text.Blank

namespace NumaFabric.Listing

open NumaFabric.Text

def directive : List Char := ['.', 'e', 'n', 't', 'r', 'y']

def afterDirective? : List Char → Option (List Char)
  | '.' :: 'e' :: 'n' :: 't' :: 'r' :: 'y' :: rest => some rest
  | _ => none

def isNameChar (c : Char) : Bool :=
  c.isAlphanum || c == '_' || c == '$' || c == '.'

/-- The name after a directive; it may be empty. Without a blank there is none. -/
def name? : List Char → Option (List Char)
  | [] => none
  | c :: rest => if isBlank c then some ((trimStart rest).takeWhile isNameChar) else none

/-- The names of all declarations, in order. The search goes on right after each directive. -/
def entries : List Char → List (List Char)
  | [] => []
  | c :: rest =>
    match afterDirective? (c :: rest) with
    | some after =>
      match name? after with
      | some (d :: name) => (d :: name) :: entries rest
      | _ => entries rest
    | none => entries rest

end NumaFabric.Listing
