import ClusterKeeper.Text.Utf8

/-!
# Percent encoding

* `Percent.encode`: the characters of a class, and all beyond ASCII, as bytes in
  base sixteen.
* `Percent.decode`: the bytes that a text stands for.
-/

namespace ClusterKeeper.Percent

/-- A digit in base sixteen, upper case. -/
def digit (n : Nat) : Char := if n < 10 then Char.ofNat (48 + n) else Char.ofNat (55 + n)

/-- A byte as a percent sign and two digits. -/
def byte (b : UInt8) : List Char := ['%', digit (b.toNat / 16), digit (b.toNat % 16)]

/-- The text with the characters in `special`, control characters and characters
beyond ASCII encoded. -/
def encode (special : List Char) (cs : List Char) : List Char :=
  cs.flatMap fun c =>
    if c.toNat < 32 ∨ 127 ≤ c.toNat ∨ c ∈ special then (String.utf8EncodeChar c).flatMap byte
    else [c]

/-- The number of a digit in base sixteen. -/
def value? (c : Char) : Option Nat :=
  let n := c.toNat
  if 48 ≤ n ∧ n ≤ 57 then some (n - 48)
  else if 65 ≤ n ∧ n ≤ 70 then some (n - 55)
  else if 97 ≤ n ∧ n ≤ 102 then some (n - 87)
  else none

/-- The bytes of a text in which a percent sign and two digits stand for a byte. -/
def decode : List Char → List UInt8
  | [] => []
  | '%' :: a :: b :: rest =>
    match value? a, value? b with
    | some x, some y => UInt8.ofNat (x * 16 + y) :: decode rest
    | _, _ => 0x25 :: decode (a :: b :: rest)
  | c :: rest => String.utf8EncodeChar c ++ decode rest

end ClusterKeeper.Percent
