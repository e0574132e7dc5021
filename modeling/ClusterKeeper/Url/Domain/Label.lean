import ClusterKeeper.Text.Blank
import ClusterKeeper.Text.Composed
import ClusterKeeper.Text.Direction
import ClusterKeeper.Text.Joining
import ClusterKeeper.Text.Mark
import ClusterKeeper.Url.Domain.Mapping
import ClusterKeeper.Url.Punycode

/-!
# Labels of domain names

A label is read as it looks, and written in ASCII: one that goes beyond ASCII is
written in letters behind a prefix, and read back from them. Not every sequence of
characters is a label: none starts with a mark, and a joiner stands only where it
makes a difference.

* `Label.ofChars?`: the label that characters name.
* `Label.inDirection`: whether a label reads the same way from both sides.
-/

namespace ClusterKeeper.Domain

open Text

/-- Whether a character is within ASCII. -/
def isAscii (c : Char) : Bool := c.toNat < 128

/-- A label, as it looks and as it is written. -/
structure Label where
  look : List Char
  written : List Char

namespace Label

/-- The joiner that parts two letters. -/
def nonJoiner : Char := Char.ofNat 0x200C

/-- The joiner that ties two letters. -/
def joiner : Char := Char.ofNat 0x200D

/-- Whether the last of some characters leaves out the vowel of its letter. -/
def endsInVirama (before : List Char) : Bool :=
  match before with
  | last :: _ => combiningClass last == 9
  | [] => false

/-- Whether characters on both sides would join. -/
def isBetweenJoining (before after : List Char) : Bool :=
  ((before.dropWhile isTransparent).head?.any joinsAfter) &&
    ((after.dropWhile isTransparent).head?.any joinsBefore)

/-- Whether the joiners in a text stand where they may; `before` holds what comes
before it, last one first. -/
def joinersStand (before : List Char) : List Char → Bool
  | [] => true
  | c :: rest =>
    (if c = joiner then endsInVirama before
      else if c = nonJoiner then endsInVirama before || isBetweenJoining before rest
      else true) && joinersStand (c :: before) rest

/-- Whether characters beyond ASCII make a label. -/
def isProper (look : List Char) : Bool :=
  !(look.head?.any isMark) && joinersStand [] look && look.length ≤ 1000

/-- The label that characters name: as they are, or in letters behind a prefix. -/
def ofChars? (cs : List Char) : Option Label :=
  match cs with
  | 'x' :: 'n' :: '-' :: '-' :: letters => do
    let look ← if letters.length ≤ 2000 then Punycode.decode? letters else none
    if !look.all isAscii && look.all isValid && composed look == look && isProper look then
      some ⟨look, cs⟩
    else none
  | _ =>
    if cs.all isAscii then some ⟨cs, cs⟩
    else if isProper cs then some ⟨cs, ['x', 'n', '-', '-'] ++ Punycode.encode cs⟩
    else none

/-- Whether a label has letters or digits that run to the left. -/
def runsLeft (l : Label) : Bool :=
  l.look.any fun c => direction c == .right || direction c == .arabicNumber

/-- Whether the directions of a label fit together: it starts with a letter, holds none
of the other direction, and ends with a letter or a digit. -/
def inDirection (l : Label) : Bool :=
  match l.look.map direction with
  | [] => true
  | .left :: rest =>
    let rest := dropEndWhile (· == .mark) rest
    rest.all (fun d => d ≠ .right ∧ d ≠ .arabicNumber) &&
      rest.getLast?.all fun d => d == .left || d == .number
  | .right :: rest =>
    let rest := dropEndWhile (· == .mark) rest
    rest.all (· ≠ .left) && !(rest.contains .number && rest.contains .arabicNumber) &&
      rest.getLast?.all fun d => d == .right || d == .number || d == .arabicNumber
  | _ => false

end Label

end ClusterKeeper.Domain
