import ClusterKeeper.Instant.Basic
import ClusterKeeper.Text.Blank

/-!
# Reading instants

What is written is read back, and a good deal more: white space before numbers,
separators and the zone, one digit where two are usual, any number of digits
after the point, and any offset of less than a day.

* `Instant.ofText?`: the instant a text names.
-/

namespace ClusterKeeper.Instant

/-- The text after leading white space. -/
def skipBlank (cs : List Char) : List Char := cs.dropWhile Text.isBlank

/-- At most `max` leading digits, and what follows them. -/
def takeDigits : Nat → List Char → List Char × List Char
  | max + 1, c :: rest =>
    if c.isDigit then
      let (digits, rest) := takeDigits max rest
      (c :: digits, rest)
    else ([], c :: rest)
  | _, cs => ([], cs)

/-- The number that digits stand for. -/
def valueOf (digits : List Char) : Nat := digits.foldl (fun n c => n * 10 + (c.toNat - 48)) 0

/-- A number of one to `max` digits. -/
def number (max : Nat) (cs : List Char) : Option (Nat × List Char) :=
  match takeDigits max cs with
  | ([], _) => none
  | (digits, rest) => some (valueOf digits, rest)

/-- White space, then a number of one or two digits. -/
def field (cs : List Char) : Option (Nat × List Char) := number 2 (skipBlank cs)

/-- White space, then the mark. -/
def mark (c : Char) (cs : List Char) : Option (List Char) :=
  match skipBlank cs with
  | d :: rest => if d = c then some rest else none
  | [] => none

/-- A year of up to four digits, or with a sign and any number of them. -/
def yearField (cs : List Char) : Option (Int × List Char) :=
  match skipBlank cs with
  | '-' :: rest => (number rest.length rest).map fun (n, rest) => (-(n : Int), rest)
  | '+' :: rest => (number rest.length rest).map fun (n, rest) => ((n : Int), rest)
  | cs => (number 4 cs).map fun (n, rest) => ((n : Int), rest)

/-- Nanoseconds, if a point follows: digits beyond the ninth are dropped. -/
def fraction : List Char → Option (Nat × List Char)
  | '.' :: rest =>
    match takeDigits 9 rest with
    | ([], _) => none
    | (digits, rest) =>
      some (valueOf digits * Nat.pow 10 (9 - digits.length), rest.dropWhile Char.isDigit)
  | cs => some (0, cs)

/-- Two digits. -/
def twoDigits : List Char → Option (Nat × List Char)
  | a :: b :: rest => if a.isDigit ∧ b.isDigit then some (valueOf [a, b], rest) else none
  | _ => none

/-- The digits of an offset: hours, any colons and white space, minutes. -/
def offsetMinutes (cs : List Char) : Option (Int × List Char) := do
  let (hours, rest) ← twoDigits cs
  let (minutes, rest) ← twoDigits (rest.dropWhile fun c => c = ':' ∨ Text.isBlank c)
  if hours < 24 ∧ minutes < 60 then some ((hours * 60 + minutes : Nat), rest) else none

/-- The minutes by which the zone is ahead. -/
def zone : List Char → Option (Int × List Char)
  | 'Z' :: rest | 'z' :: rest => some (0, rest)
  | '+' :: rest => offsetMinutes rest
  | '-' :: rest | '\u2212' :: rest => (offsetMinutes rest).map fun (n, rest) => (-n, rest)
  | u :: t :: c :: rest =>
    if u.toUpper = 'U' ∧ t.toUpper = 'T' ∧ c.toUpper = 'C' then some (0, rest) else none
  | _ => none

/-- The instant that the characters name. -/
def ofChars? (cs : List Char) : Option Instant := do
  let (year, cs) ← yearField cs
  let cs ← mark '-' cs
  let (month, cs) ← field cs
  let cs ← mark '-' cs
  let (day, cs) ← field cs
  let cs ← match cs with
    | 'T' :: rest | 't' :: rest | ' ' :: rest => some rest
    | _ => none
  let (hour, cs) ← field cs
  let cs ← mark ':' cs
  let (minute, cs) ← field cs
  let cs ← mark ':' cs
  let (second, cs) ← field cs
  let (nano, cs) ← fraction cs
  let (ahead, cs) ← zone (skipBlank cs)
  -- the calendar has to have the day before the offset is taken off
  let civil ← of? year month day hour minute second nano
  if (skipBlank cs).isEmpty then civil.shift? (-ahead) else none

/-- The instant that a text names. -/
def ofText? (s : String) : Option Instant := ofChars? s.toList

end ClusterKeeper.Instant
