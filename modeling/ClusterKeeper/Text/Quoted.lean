import ClusterKeeper.Text.Unprintable

/-!
# Text shown in quotes

A text is shown between double quotes, with a backslash before a quote and a
backslash, the short escapes for newline, tab, carriage return and NUL, and a
number in braces for every other character that has no visible form of its own.

* `quoted`: the form shown.
-/

namespace ClusterKeeper.Text

/-- The digits of a number in base sixteen, lower case. -/
def hex (n : Nat) : List Char := Nat.toDigits 16 n

/-- One character as shown between quotes. -/
def escaped (c : Char) : List Char :=
  if c = '"' then ['\\', '"']
  else if c = '\\' then ['\\', '\\']
  else if c = '\n' then ['\\', 'n']
  else if c = '\t' then ['\\', 't']
  else if c = '\r' then ['\\', 'r']
  else if c = Char.ofNat 0 then ['\\', '0']
  else if isUnprintable c then ['\\', 'u', '\x7b'] ++ hex c.toNat ++ ['\x7d']
  else [c]

/-- The text between quotes. -/
def quoted (s : String) : String :=
  String.ofList ('"' :: s.toList.flatMap escaped ++ ['"'])

end ClusterKeeper.Text
