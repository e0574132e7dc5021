import ClusterKeeper.Url.Domain.Basic
import ClusterKeeper.Url.Percent

/-!
# Hosts

A host is a name, an address of four numbers, or an address of eight in brackets.
It is kept as it is written in a request.

* `Host.ofChars?`: the host that a text names.
-/

namespace ClusterKeeper.Host

/-- A number in base `base` with the digits `digits`, if it is one. -/
def number? (base : Nat) (digits : List Char) : Option Nat :=
  digits.foldlM (fun n c => do
    let d ← Percent.value? c
    if d < base then some (n * base + d) else none) 0

/-- One part of an address of four numbers: decimal, octal after 0, or base sixteen
after 0x. -/
def part? : List Char → Option Nat
  | [] => none
  | ['0'] => some 0
  | '0' :: 'x' :: digits | '0' :: 'X' :: digits => number? 16 digits
  | '0' :: digits => number? 8 digits
  | digits => number? 10 digits

/-- The labels of a name, without an empty one at the end. -/
def significant (cs : List Char) : List (List Char) :=
  let ls := Text.cutAt '.' cs
  match ls.reverse with
  | [] :: rest => if rest.isEmpty then ls else rest.reverse
  | _ => ls

/-- Whether the last label is a number, so that the host can only be an address. -/
def endsInNumber (cs : List Char) : Bool :=
  match (significant cs).getLast? with
  | some last => (!last.isEmpty && last.all Char.isDigit) ||
      (match last with
        | '0' :: x :: digits => (x == 'x' || x == 'X') && (number? 16 digits).isSome
        | _ => false)
  | none => false

/-- The number of the parts: all but the last are bytes, the last fills the rest. -/
def combine? : List Nat → Option Nat
  | [] => none
  | parts =>
    let count := parts.length
    let last := parts.getLast?.getD 0
    let front := parts.dropLast
    if count ≤ 4 ∧ front.all (· < 256) ∧ last < Nat.pow 256 (5 - count) then
      some (front.foldl (fun n p => n * 256 + p) 0 * Nat.pow 256 (5 - count) + last)
    else none

/-- An address of four numbers, as it is written. -/
def dotted (n : Nat) : List Char :=
  s!"{n / 16777216}.{n / 65536 % 256}.{n / 256 % 256}.{n % 256}".toList

/-- A name or an address of four numbers. -/
def name? (cs : List Char) : Option (List Char) := do
  let ascii ← Domain.toAscii? (Utf8.decodeLossy (Percent.decode cs)).toList
  if ascii.isEmpty then none
  else if endsInNumber ascii then
    ((significant ascii).mapM part?).bind fun parts => (combine? parts).map dotted
  else some ascii

/-- Four bytes in decimal, as the last two of eight numbers. -/
def embedded? (cs : List Char) : Option (List Nat) := do
  let parts ← (Text.cutAt '.' cs).mapM fun digits =>
    if digits.length ≤ 3 ∧ digits.all Char.isDigit ∧ ¬ digits.isEmpty ∧
        ¬ (digits.head? = some '0' ∧ 1 < digits.length) then number? 10 digits
    else none
  match parts with
  | [a, b, c, d] =>
    if a < 256 ∧ b < 256 ∧ c < 256 ∧ d < 256 then some [a * 256 + b, c * 256 + d] else none
  | _ => none

/-- Numbers of up to four digits in base sixteen, the last one maybe four bytes. -/
def pieces? : List (List Char) → Option (List Nat)
  | [] => some []
  | [last] =>
    if last.contains '.' then embedded? last
    else if 1 ≤ last.length ∧ last.length ≤ 4 then (number? 16 last).map ([·]) else none
  | digits :: rest => do
    let n ← if 1 ≤ digits.length ∧ digits.length ≤ 4 then number? 16 digits else none
    let more ← pieces? rest
    some (n :: more)

/-- Cut at the first pair of colons. -/
def cutAtGap : List Char → Option (List Char × List Char)
  | ':' :: ':' :: rest => some ([], rest)
  | c :: rest => (cutAtGap rest).map fun (before, after) => (c :: before, after)
  | [] => none

/-- The numbers of one side of a gap. -/
def side? (cs : List Char) : Option (List Nat) :=
  if cs.isEmpty then some [] else pieces? (Text.cutAt ':' cs)

/-- The eight numbers of an address in brackets. -/
def eight? (cs : List Char) : Option (List Nat) :=
  match cutAtGap cs with
  | some (before, after) => do
    if before.contains '.' then none
    let front ← side? before
    let back ← side? after
    if front.length + back.length ≤ 7 then
      some (front ++ List.replicate (8 - front.length - back.length) 0 ++ back)
    else none
  | none => do
    let parts ← side? cs
    if parts.length = 8 then some parts else none

/-- The longest run of zeros: where it starts and how long it is. -/
def zeroRun : Nat → List Nat → Nat × Nat
  | _, [] => (0, 0)
  | i, ns@(_ :: rest) =>
    let here := (ns.takeWhile (· == 0)).length
    let later := zeroRun (i + 1) rest
    -- of runs of one length the first counts
    if later.2 ≤ here then (i, here) else later

/-- Numbers in base sixteen with colons between them. -/
def joined (ns : List Nat) : List Char := [':'].intercalate (ns.map (Nat.toDigits 16))

/-- An address of eight numbers, as it is written: the longest run of zeros is
left out. -/
def bracketed (ns : List Nat) : List Char :=
  let (start, length) := zeroRun 0 ns
  let inner :=
    if 2 ≤ length then joined (ns.take start) ++ [':', ':'] ++ joined (ns.drop (start + length))
    else joined ns
  '[' :: inner ++ [']']

/-- The host that a text names, as it is written in requests. -/
def ofChars? : List Char → Option (List Char)
  | '[' :: rest =>
    match rest.reverse with
    | ']' :: inner => (eight? inner.reverse).map bracketed
    | _ => none
  | cs => name? cs

end ClusterKeeper.Host
