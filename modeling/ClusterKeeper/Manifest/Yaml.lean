import ClusterKeeper.Json.Basic
import ClusterKeeper.Json.Double

/-!
# Values as YAML documents

A value is written in block style: a member or an element on each line, the elements
of a list at the indentation of its name. A text is quoted only where it would be
read as something else.

* `Yaml.document`: the document of a value.
-/

namespace ClusterKeeper.Yaml

/-- Whether a colon followed by a space, or a space followed by a number sign, stands
in the text, or a colon ends it. -/
def hasIndicator : List Char → Bool
  | [] => false
  | [c] => c == ':'
  | ':' :: ' ' :: _ => true
  | ' ' :: '#' :: _ => true
  | _ :: rest => hasIndicator rest

/-- Characters that mean something at the start of a value. -/
def leading : List Char :=
  ['-', '?', ':', ',', '[', ']', '\x7b', '\x7d', '#', '&', '*', '!', '|', '>', '\'', '"', '%', '@',
    Char.ofNat 96, ' ']

/-- Texts that stand for values of other types. -/
def reserved : List String :=
  ["null", "Null", "NULL", "~", "true", "True", "TRUE", "false", "False", "FALSE"]

/-- Whether the text must be quoted. -/
def needsQuotes (s : String) : Bool :=
  match s.toList with
  | [] => true
  | c :: rest =>
    leading.contains c || c.isDigit || hasIndicator (c :: rest) || reserved.contains s ||
      (c :: rest).getLast? == some ' '

/-- A text between single quotes, each quote in it written twice. -/
def singleQuoted (s : String) : String :=
  String.ofList
    ('\'' :: s.toList.flatMap (fun c => if c = '\'' then ['\'', '\''] else [c]) ++ ['\''])

/-- A value on one line: what is neither a member nor an element. -/
def scalar : Json → String
  | .bool b => if b then "true" else "false"
  | .int n => toString n
  | .float x => String.ofList (Json.Double.chars x)
  | .str s => if needsQuotes s then singleQuoted s else s
  | .arr _ => "[]"
  | .obj _ => "\x7b\x7d"
  | .null | .unreadable => "null"

/-- Lines further to the right. -/
def indent (lines : List String) : List String := lines.map ("  " ++ ·)

/-- Lines of an element, with a hyphen before the first. -/
def hyphenated : List String → List String
  | [] => []
  | first :: rest => ("- " ++ first) :: indent rest

mutual

/-- The lines of a value. -/
def block : Json → List String
  | .obj (m :: ms) => memberLines (m :: ms)
  | .arr (x :: xs) => elementLines (x :: xs)
  | j => [scalar j]

/-- The lines of members. -/
def memberLines : List (String × Json) → List String
  | [] => []
  | (name, j) :: rest =>
    (match j with
      | .obj (m :: ms) => s!"{name}:" :: indent (memberLines (m :: ms))
      | .arr (x :: xs) => s!"{name}:" :: elementLines (x :: xs)
      | j => [s!"{name}: {scalar j}"]) ++ memberLines rest

/-- The lines of elements. -/
def elementLines : List Json → List String
  | [] => []
  | j :: rest => hyphenated (block j) ++ elementLines rest

end

/-- The document of a value. -/
def document (j : Json) : String := String.join ((block j).map (· ++ "\n"))

end ClusterKeeper.Yaml
