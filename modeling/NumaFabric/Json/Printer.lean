import NumaFabric.Json.Basic

namespace NumaFabric.Json

def escape (c : Char) : List Char :=
  match c with
  | '"' => ['\\', '"']
  | '\\' => ['\\', '\\']
  | '\n' => ['\\', 'n']
  | '\r' => ['\\', 'r']
  | '\t' => ['\\', 't']
  | '\x08' => ['\\', 'b']
  | '\x0c' => ['\\', 'f']
  | c =>
    if c.toNat < 32 then
      ['\\', 'u', '0', '0', Nat.digitChar (c.toNat / 16), Nat.digitChar (c.toNat % 16)]
    else [c]

def renderString (s : String) : List Char := '"' :: (s.toList.flatMap escape ++ ['"'])

def renderInt (n : Int) : List Char :=
  if n < 0 then '-' :: Nat.toDigits 10 n.natAbs else Nat.toDigits 10 n.natAbs

mutual

def render : Json → List Char
  | null => ['n', 'u', 'l', 'l']
  | bool true => ['t', 'r', 'u', 'e']
  | bool false => ['f', 'a', 'l', 's', 'e']
  | int n => renderInt n
  | real literal => literal.toList
  | str s => renderString s
  | arr items => '[' :: (renderItems items ++ [']'])
  | obj fields => '\x7b' :: (renderFields fields ++ ['\x7d'])
  | unreadable => ['"', '\\', 'u', 'd', '8', '0', '0', '"']

def renderItems : List Json → List Char
  | [] => []
  | [j] => j.render
  | j :: k :: rest => j.render ++ ',' :: renderItems (k :: rest)

def renderFields : List (String × Json) → List Char
  | [] => []
  | [(k, j)] => renderString k ++ ':' :: j.render
  | (k, j) :: f :: rest => renderString k ++ ':' :: (j.render ++ ',' :: renderFields (f :: rest))

end

def text (j : Json) : String := String.ofList j.render

end NumaFabric.Json
