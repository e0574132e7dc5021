import ClusterKeeper.Json.Basic
import ClusterKeeper.Json.Double

/-!
# Writing JSON text

The text of a value has no space between its tokens. A character below U+0020,
a quote and a backslash are escaped; every other character stands as it is.

* `Json.render`: the text.
-/

namespace ClusterKeeper.Json

/-- A digit in base sixteen. -/
def hexDigit (n : Nat) : Char := Nat.digitChar n

/-- One character inside a string. -/
def stringChar (c : Char) : List Char :=
  if c = '"' then ['\\', '"']
  else if c = '\\' then ['\\', '\\']
  else if c = '\n' then ['\\', 'n']
  else if c = '\r' then ['\\', 'r']
  else if c = '\t' then ['\\', 't']
  else if c = '\x08' then ['\\', 'b']
  else if c = '\x0c' then ['\\', 'f']
  else if c.toNat < 32 then ['\\', 'u', '0', '0', hexDigit (c.toNat / 16), hexDigit (c.toNat % 16)]
  else [c]

/-- A string between its quotes. -/
def stringText (s : String) : List Char := '"' :: s.toList.flatMap stringChar ++ ['"']

mutual

/-- The characters of a value. -/
def chars : Json → List Char
  | .null | .unreadable => ['n', 'u', 'l', 'l']
  | .bool true => ['t', 'r', 'u', 'e']
  | .bool false => ['f', 'a', 'l', 's', 'e']
  | .int n => (toString n).toList
  | .float x => Double.chars x
  | .str s => stringText s
  | .arr xs => '[' :: elementChars xs ++ [']']
  | .obj ms => '\x7b' :: memberChars ms ++ ['\x7d']

/-- The characters of elements with commas between them. -/
def elementChars : List Json → List Char
  | [] => []
  | [j] => chars j
  | j :: rest => chars j ++ ',' :: elementChars rest

/-- The characters of members with commas between them. -/
def memberChars : List (String × Json) → List Char
  | [] => []
  | [(name, j)] => stringText name ++ ':' :: chars j
  | (name, j) :: rest => stringText name ++ ':' :: chars j ++ ',' :: memberChars rest

end

/-- The text of a value. -/
def render (j : Json) : String := String.ofList (chars j)

end ClusterKeeper.Json
