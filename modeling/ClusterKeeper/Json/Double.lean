/-!
# Doubles in JSON text

A number that is no integer of 64 bits is kept as a double. It is made of its first
digits, as many as 64 bits hold, and a power of ten, each step rounded; it is written
with the fewest digits that lie nearer to it than to any other double.

* `Double.ofParts?`: the double of a significand and an exponent.
* `Double.chars`: the text of a double.
-/

namespace ClusterKeeper.Json.Double

/-- A power of ten, rounded. -/
def powerOfTen (n : Nat) : Float := Float.ofScientific 1 false n

/-- A double times a power of ten, if it stays finite. One step scales by at most the
greatest power of ten that a double holds. -/
def scale? (f : Float) (exponent : Int) : Option Float :=
  if 308 < exponent then if f == 0 then some f else none
  else if 0 ≤ exponent then
    let scaled := f * powerOfTen exponent.toNat
    if scaled.isInf then none else some scaled
  else if -308 ≤ exponent then some (f / powerOfTen (-exponent).toNat)
  else if f == 0 then some f
  else scale? (f / powerOfTen 308) (exponent + 308)
termination_by (-exponent).toNat

/-- The double of a sign, a significand below `2 ^ 64` and an exponent of ten. -/
def ofParts? (negative : Bool) (significand : Nat) (exponent : Int) : Option Float :=
  (scale? (Float.ofNat significand) exponent).map fun f => if negative then -f else f

/-- A positive double as `significand * 2 ^ exponent`. -/
structure Binary where
  significand : Nat
  exponent : Int
  /-- Whether the double below is half as far away as the one above. -/
  narrowBelow : Bool

/-- The parts of a positive double. -/
def Binary.ofFloat (f : Float) : Binary :=
  let bits := f.toBits.toNat
  let exponent : Nat := bits / 4503599627370496 % 2048
  let fraction := bits % 4503599627370496
  if exponent = 0 then ⟨fraction, -1074, false⟩
  else ⟨4503599627370496 + fraction, (exponent : Int) - 1075, fraction == 0 && 1 < exponent⟩

/-- A fraction that stands for `n * 2 ^ i * 10 ^ j`. -/
def fraction (n : Nat) (i j : Int) : Nat × Nat :=
  (n * Nat.pow 2 i.toNat * Nat.pow 10 j.toNat, Nat.pow 2 (-i).toNat * Nat.pow 10 (-j).toNat)

/-- Whether `n * 10 ^ e` lies nearer to a double than to any other. Half way to the
next one, the double with the even significand counts as the nearer. -/
def Binary.isNearest (x : Binary) (n : Nat) (e : Int) : Bool :=
  let low := if x.narrowBelow then 4 * x.significand - 1 else 4 * x.significand - 2
  let high := 4 * x.significand + 2
  -- a quarter of the last place of the double, in units of `10 ^ e`
  let (quarter, unit) := fraction 1 (x.exponent - 2) (-e)
  if x.significand % 2 = 0 then low * quarter ≤ n * unit && n * unit ≤ high * quarter
  else low * quarter < n * unit && n * unit < high * quarter

/-- The multiple of `10 ^ e` that is nearest to a double and to no other double, if
there is one. -/
def Binary.onGrid? (x : Binary) (e : Int) : Option Nat :=
  let (value, unit) := fraction x.significand x.exponent (-e)
  let below := value / unit
  match x.isNearest below e, x.isNearest (below + 1) e with
  | true, true =>
    -- of two the closer, half way the even one
    let rest := 2 * (value % unit)
    if rest < unit ∨ (rest = unit ∧ below % 2 = 0) then some below else some (below + 1)
  | true, false => some below
  | false, true => some (below + 1)
  | false, false => none

/-- The exponents of ten that are tried, the greatest first: the first digit of a
double is worth `10 ^ 308` at most, and the last `10 ^ (-340)` at least. -/
def grids : List Int := (List.range 649).map fun (i : Nat) => 308 - (i : Int)

/-- The fewest digits of a positive double, as a number and an exponent of ten. -/
def Binary.digits (x : Binary) : Nat × Int :=
  (grids.findSome? fun e => do
    let n ← x.onGrid? e
    if n = 0 then none else some (n, e)).getD (0, 0)

/-- Digits and an exponent of ten as they are written: with a point from `1e-5` up to
`1e16`, beyond that with an exponent. -/
def layout (n : Nat) (e : Int) : List Char :=
  let digits := Nat.toDigits 10 n
  -- where the point stands, counted from the first digit
  let point := digits.length + e
  if 0 ≤ e ∧ point ≤ 16 then digits ++ List.replicate e.toNat '0' ++ ['.', '0']
  else if 0 < point ∧ point ≤ 16 then
    digits.take point.toNat ++ '.' :: digits.drop point.toNat
  else if -5 < point ∧ point ≤ 0 then
    ['0', '.'] ++ List.replicate (-point).toNat '0' ++ digits
  else
    let exponent := 'e' :: (toString (point - 1)).toList
    match digits with
    | first :: second :: rest => first :: '.' :: second :: rest ++ exponent
    | digits => digits ++ exponent

/-- The text of a finite double. -/
def chars (f : Float) : List Char :=
  let negative := 9223372036854775808 ≤ f.toBits.toNat
  let x := Binary.ofFloat f
  let text :=
    if x.significand = 0 then ['0', '.', '0']
    else
      let (n, e) := x.digits
      layout n e
  if negative then '-' :: text else text

end ClusterKeeper.Json.Double
