import ClusterKeeper.Text.Composition

/-!
# The composed form of a text

Texts that look alike have one composed form: every character is taken apart, the
marks after a letter are put in order of their classes, and what can combine is
combined again.

* `composed`: the form of a text.
-/

namespace ClusterKeeper.Text

/-- The characters that a character is made of, down to some depth. -/
def takenApart : Nat → Char → List Char
  | 0, c => [c]
  | depth + 1, c =>
    match decompose? c with
    | some (first, second) => takenApart depth first ++ [second]
    | none => [c]

/-- Put a mark behind those that come before it in order. -/
def placeMark (c : Char) : List Char → List Char
  | [] => [c]
  | d :: rest =>
    if 0 < combiningClass d ∧ combiningClass d < combiningClass c then d :: placeMark c rest
    else c :: d :: rest

/-- The text with its marks in order. -/
def ordered : List Char → List Char
  | [] => []
  | c :: rest => placeMark c (ordered rest)

/-- Combine a character with what follows. The marks in `held`, last one first, stand
between and do not combine with it; `level` is the class of the last of them. -/
def combine (c : Char) (held : List Char) (level : Nat) : List Char → List Char
  | [] => c :: held.reverse
  | d :: rest =>
    let here := combiningClass d
    -- a mark of the same class or a greater one stands in the way
    match if held.isEmpty ∨ level < here then compose? c d else none with
    | some whole => combine whole held level rest
    | none =>
      if here = 0 then c :: held.reverse ++ combine d [] 0 rest
      else combine c (d :: held) here rest

/-- The composed form of a text. No character is made of others that are made of
others more than three times over. -/
def composed (cs : List Char) : List Char :=
  match ordered (cs.flatMap (takenApart 4)) with
  | [] => []
  | c :: rest => combine c [] 0 rest

end ClusterKeeper.Text
