/-!
# Punycode

A label with characters beyond ASCII is written in letters, digits and hyphens:
first its ASCII characters, then, for each other one in order of code points, the
distance to it as a number of variable length.

* `Punycode.encode`: the letters.
* `Punycode.decode?`: the label that letters stand for.
-/

namespace ClusterKeeper.Punycode

/-- A number below 36 as a letter or digit. -/
def digit (n : Nat) : Char := if n < 26 then Char.ofNat (97 + n) else Char.ofNat (22 + n)

/-- The bias after a distance was written, at the end of the adaption loop. -/
def settle : Nat → Nat → Nat → Nat
  | 0, k, delta => k + 36 * delta / (delta + 38)
  | fuel + 1, k, delta =>
    if 455 < delta then settle fuel (k + 36) (delta / 35) else k + 36 * delta / (delta + 38)

/-- The bias after a distance was written. -/
def adapt (delta points : Nat) (first : Bool) : Nat :=
  let delta := if first then delta / 700 else delta / 2
  let delta := delta + delta / points
  settle delta 0 delta

/-- The least value with which a digit does not end a number. -/
def threshold (bias k : Nat) : Nat := if k ≤ bias then 1 else if bias + 26 ≤ k then 26 else k - bias

/-- A distance, digit by digit. -/
def distance : Nat → Nat → Nat → Nat → List Char
  | 0, _, _, q => [digit q]
  | fuel + 1, bias, k, q =>
    let t := threshold bias k
    if q < t then [digit q]
    else digit (t + (q - t) % (36 - t)) :: distance fuel bias (k + 36) ((q - t) / (36 - t))

/-- Where the encoding stands: the distance gathered, the bias, the characters
written, and what they were written as. -/
structure Progress where
  delta : Nat
  bias : Nat
  written : Nat
  output : List Char

/-- Pass over one character of the label on the way to code point `n`. -/
def pass (n basics : Nat) (p : Progress) (c : Char) : Progress :=
  if c.toNat < n then { p with delta := p.delta + 1 }
  else if c.toNat = n then
    { delta := 0
      bias := adapt p.delta (p.written + 1) (p.written == basics)
      written := p.written + 1
      output := p.output ++ distance p.delta p.bias 36 p.delta }
  else p

/-- Write the characters from code point `n` on. -/
def rounds (label : List Char) (basics : Nat) : Nat → Nat → Progress → List Char
  | 0, _, p => p.output
  | fuel + 1, n, p =>
    match (label.filter fun c => n ≤ c.toNat).map Char.toNat |>.min? with
    | none => p.output
    | some m =>
      let p := { p with delta := p.delta + (m - n) * (p.written + 1) }
      let p := label.foldl (pass m basics) p
      rounds label basics fuel (m + 1) { p with delta := p.delta + 1 }

/-- The letters that stand for a label. -/
def encode (label : List Char) : List Char :=
  let ascii := label.filter fun c => c.toNat < 128
  let start := if ascii.isEmpty then [] else ascii ++ ['-']
  rounds label ascii.length label.length 128 ⟨0, 72, ascii.length, start⟩

/-- The number of a letter or digit. -/
def value? (c : Char) : Option Nat :=
  if c.isDigit then some (c.toNat - 22)
  else if c.isLower then some (c.toNat - 97)
  else if c.isUpper then some (c.toNat - 65)
  else none

/-- A number at the start of the letters, and what follows it. It is below `2 ^ 32`,
and so is what a further digit would count. -/
def number? (bias k weight n : Nat) : List Char → Option (Nat × List Char)
  | [] => none
  | c :: rest => do
    let d ← value? c
    let n := n + d * weight
    let t := threshold bias k
    if 2 ^ 32 ≤ n then none
    else if d < t then some (n, rest)
    else if 2 ^ 32 ≤ weight * (36 - t) then none
    else number? bias (k + 36) (weight * (36 - t)) n rest

/-- Put the characters that the numbers stand for into the label: from the place and
the code point of one the number leads to those of the next. -/
def insertions? : Nat → (point bias place : Nat) → (label : List Char) → List Char →
    Option (List Char)
  | _, _, _, _, label, [] => some label
  | 0, _, _, _, _, _ => none
  | fuel + 1, point, bias, place, label, letters => do
    let (reached, rest) ← number? bias 36 1 place letters
    let places := label.length + 1
    let point := point + reached / places
    -- beyond the code points, or half of a surrogate pair
    if 0x110000 ≤ point ∨ (0xD800 ≤ point ∧ point < 0xE000) then none
    let place' := reached % places
    let label := label.take place' ++ Char.ofNat point :: label.drop place'
    insertions? fuel point (adapt (reached - place) places (place == 0)) (place' + 1) label rest

/-- The label that letters stand for: those before the last hyphen stand for
themselves, the others for numbers. -/
def decode? (letters : List Char) : Option (List Char) :=
  let (numbers, ascii) := letters.reverse.span (· ≠ '-')
  -- a hyphen in front of all does not part anything
  let (ascii, numbers) :=
    if ascii.length ≤ 1 then ([], letters) else (ascii.tail.reverse, numbers.reverse)
  if letters.all fun c => c.toNat < 128 then insertions? numbers.length 128 72 0 ascii numbers
  else none

end ClusterKeeper.Punycode
