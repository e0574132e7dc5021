import ClusterKeeper.Instant.Basic

/-!
# Writing instants

An instant is written as `YYYY-MM-DDTHH:MM:SSZ`, with three, six or nine digits
after a point where the shortest of these is exact. A year outside 0 to 9999 has
a sign.

* `Instant.text`: the written form.
-/

namespace ClusterKeeper.Instant

/-- At least `width` digits. -/
def padded (width n : Nat) : List Char :=
  let digits := Nat.toDigits 10 n
  List.replicate (width - digits.length) '0' ++ digits

/-- A year: four digits, or a sign and at least four. -/
def yearText (year : Int) : List Char :=
  if 0 ≤ year ∧ year ≤ 9999 then padded 4 year.toNat
  else (if year < 0 then '-' else '+') :: padded 4 year.natAbs

/-- The digits after the point, if any are needed. -/
def fractionText (nano : Nat) : List Char :=
  if nano = 0 then []
  else if nano % 1000000 = 0 then '.' :: padded 3 (nano / 1000000)
  else if nano % 1000 = 0 then '.' :: padded 6 (nano / 1000)
  else '.' :: padded 9 nano

/-- The written form. -/
def text (t : Instant) : String :=
  String.ofList <|
    yearText t.year ++ '-' :: padded 2 t.month ++ '-' :: padded 2 t.day ++ 'T' :: padded 2 t.hour ++
      ':' :: padded 2 t.minute ++ ':' :: padded 2 t.second ++ fractionText t.nano ++ ['Z']

end ClusterKeeper.Instant
