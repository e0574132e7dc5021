import ClusterKeeper.Text.Pieces

/-!
# Sets of characters

A set is kept as runs of code points. It is written with the first and the last code
point of each run in base sixteen, or the only one.

* `CharSet.ofText`: the set that a text writes.
* `CharSet.contains`: membership.
-/

namespace ClusterKeeper.Text

/-- The number of a digit in base sixteen, lower case. -/
def hexValue (c : Char) : Nat := if c.toNat < 58 then c.toNat - 48 else c.toNat - 87

/-- The number that digits in base sixteen stand for. -/
def hexNumber (digits : List Char) : Nat := digits.foldl (fun n c => n * 16 + hexValue c) 0

/-- The first and the last code point of a run. -/
def runOfText (word : List Char) : Nat × Nat :=
  match cutAt '-' word with
  | [first, last] => (hexNumber first, hexNumber last)
  | _ => (hexNumber word, hexNumber word)

/-- A set of characters, as runs of code points in increasing order. -/
structure CharSet where
  runs : List (Nat × Nat)

namespace CharSet

/-- The set that a text writes. -/
def ofText (s : String) : CharSet := ⟨(words s.toList).map runOfText⟩

/-- Whether a character belongs to the set. -/
def contains (s : CharSet) (c : Char) : Bool :=
  -- the runs before the character are passed over, and those after it not looked at
  match s.runs.dropWhile (·.2 < c.toNat) with
  | (first, _) :: _ => first ≤ c.toNat
  | [] => false

end CharSet

end ClusterKeeper.Text
