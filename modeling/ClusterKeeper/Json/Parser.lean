import ClusterKeeper.Json.Basic
import ClusterKeeper.Json.Double
import ClusterKeeper.Text.Utf8

/-!
# Reading JSON text

The input is a list of characters in which bytes that belong to no character
have a place of their own, so that a body which is broken inside a member that
nobody reads can still be read.

* `Json.parse?`: the value of a whole text.
* `Json.ofText?`, `Json.ofBytes?`: the same from a string and from bytes.
-/

namespace ClusterKeeper.Json

/-- Characters, with `none` where bytes belong to no character. -/
abbrev Input := List (Option Char)

/-- The four characters that may stand between tokens. -/
def isSpace : Option Char → Bool
  | some ' ' | some '\n' | some '\t' | some '\r' => true
  | _ => false

/-- The input after its leading space. -/
def skip (input : Input) : Input := input.dropWhile isSpace

/-- The number of a digit in base sixteen. -/
def hexDigit? : Option Char → Option Nat
  | some c =>
    let n := c.toNat
    if 48 ≤ n ∧ n ≤ 57 then some (n - 48)
    else if 65 ≤ n ∧ n ≤ 70 then some (n - 55)
    else if 97 ≤ n ∧ n ≤ 102 then some (n - 87)
    else none
  | none => none

/-- One item of a string: a character, a numbered code unit, or what is neither. -/
inductive StringItem where
  | char (c : Char)
  | unit (n : Nat)
  | fault

/-- The character that a one-letter escape stands for. -/
def shortEscape? : Char → Option Char
  | '"' => some '"'
  | '\\' => some '\\'
  | '/' => some '/'
  | 'b' => some '\x08'
  | 'f' => some '\x0c'
  | 'n' => some '\n'
  | 'r' => some '\r'
  | 't' => some '\t'
  | _ => none

/-- The items up to the closing quote, and the input after it. -/
def stringItems : Input → Option (List StringItem × Input)
  | [] => none
  | some '"' :: rest => some ([], rest)
  | some '\\' :: some 'u' :: a :: b :: c :: d :: rest => do
    let a ← hexDigit? a
    let b ← hexDigit? b
    let c ← hexDigit? c
    let d ← hexDigit? d
    let (items, rest) ← stringItems rest
    some (.unit (((a * 16 + b) * 16 + c) * 16 + d) :: items, rest)
  | some '\\' :: some e :: rest => do
    let c ← shortEscape? e
    let (items, rest) ← stringItems rest
    some (.char c :: items, rest)
  | none :: rest => do
    let (items, rest) ← stringItems rest
    some (.fault :: items, rest)
  | some c :: rest =>
    if c.toNat < 32 ∨ c = '\\' then none
    else do
      let (items, rest) ← stringItems rest
      some (.char c :: items, rest)

/-- The characters of the items, if every surrogate stands in a pair. -/
def stringChars? : List StringItem → Option (List Char)
  | [] => some []
  | .char c :: rest => (stringChars? rest).map (c :: ·)
  | .fault :: _ => none
  | .unit high :: .unit low :: rest =>
    if 0xD800 ≤ high ∧ high < 0xDC00 ∧ 0xDC00 ≤ low ∧ low < 0xE000 then
      (stringChars? rest).map
        (Char.ofNat (0x10000 + (high - 0xD800) * 0x400 + (low - 0xDC00)) :: ·)
    else if 0xD800 ≤ high ∧ high < 0xE000 then none
    else (stringChars? (.unit low :: rest)).map (Char.ofNat high :: ·)
  | .unit n :: rest =>
    if 0xD800 ≤ n ∧ n < 0xE000 then none else (stringChars? rest).map (Char.ofNat n :: ·)

/-- A string after its opening quote: its text if it has one. -/
def stringToken (input : Input) : Option (Option String × Input) := do
  let (items, rest) ← stringItems input
  some ((stringChars? items).map String.ofList, rest)

/-- The leading digits of the input. -/
def digitRun : Input → List Char × Input
  | some c :: rest =>
    if c.isDigit then
      let (digits, rest) := digitRun rest
      (c :: digits, rest)
    else ([], some c :: rest)
  | input => ([], input)

/-- The number that a run of digits stands for. -/
def digitsValue (digits : List Char) : Nat := digits.foldl (fun n c => n * 10 + (c.toNat - 48)) 0

/-- Append digits to a number as long as 64 bits hold it, and what digits are left
then. -/
def fill (n : Nat) : List Char → Nat × List Char
  | [] => (n, [])
  | c :: rest =>
    let more := n * 10 + (c.toNat - 48)
    if more < 2 ^ 64 then fill more rest else (n, c :: rest)

/-- A number as it was written. -/
structure NumberToken where
  negative : Bool
  whole : List Char
  fraction : Option (List Char)
  /-- The exponent: whether it is negative, and its digits. -/
  exponent : Option (Bool × List Char)

/-- The first digits as a number, and the power of ten that scales it: a digit that
is left out before the point counts as zero, one after it does not count. -/
def NumberToken.parts (t : NumberToken) : Nat × Int :=
  let (n, left) := fill 0 t.whole
  let fraction := t.fraction.getD []
  let (n, dropped) := fill n fraction
  (n, left.length + dropped.length - fraction.length)

/-- The number as a double, if one holds it. An exponent beyond 32 bits leaves nothing
of the number, or no place for it. -/
def NumberToken.float? (t : NumberToken) : Option Float :=
  let (n, scale) := t.parts
  match t.exponent with
  | some (negative, digits) =>
    let exponent := digitsValue digits
    if exponent < 2147483648 then
      Double.ofParts? t.negative n (if negative then scale - exponent else scale + exponent)
    else if negative ∨ n = 0 then Double.ofParts? t.negative 0 0
    else none
  | none => Double.ofParts? t.negative n scale

/-- The value of a number. -/
def NumberToken.toJson (t : NumberToken) : Json :=
  let n := digitsValue t.whole
  let float := (t.float?.map .float).getD .unreadable
  match t.fraction, t.exponent with
  | none, none =>
    if t.negative then
      -- minus zero is no integer
      if 0 < n ∧ n ≤ 9223372036854775808 then .int (-(n : Int)) else float
    else if n < 18446744073709551616 then .int n
    else float
  | _, _ => float

/-- The fraction of a number, if a point follows. -/
def fractionPart : Input → Option (Option (List Char) × Input)
  | some '.' :: rest =>
    match digitRun rest with
    | ([], _) => none
    | (digits, rest) => some (some digits, rest)
  | input => some (none, input)

/-- The exponent of a number, if one follows. -/
def exponentPart : Input → Option (Option (Bool × List Char) × Input)
  | some c :: rest =>
    if c = 'e' ∨ c = 'E' then
      let (negative, rest) :=
        match rest with
        | some '+' :: rest => (false, rest)
        | some '-' :: rest => (true, rest)
        | rest => (false, rest)
      match digitRun rest with
      | ([], _) => none
      | (digits, rest) => some (some (negative, digits), rest)
    else some (none, some c :: rest)
  | input => some (none, input)

/-- A number, its sign taken already. -/
def unsignedToken (negative : Bool) (input : Input) : Option (NumberToken × Input) :=
  match digitRun input with
  | ([], _) => none
  -- a zero in front of other digits
  | ('0' :: _ :: _, _) => none
  | (whole, rest) => do
    let (fraction, rest) ← fractionPart rest
    let (exponent, rest) ← exponentPart rest
    some (⟨negative, whole, fraction, exponent⟩, rest)

/-- A number. -/
def numberToken : Input → Option (NumberToken × Input)
  | some '-' :: rest => unsignedToken true rest
  | input => unsignedToken false input

mutual

/-- A value at the start of the input, and the input after it. -/
def value : Nat → Input → Option (Json × Input)
  | 0, _ => none
  | fuel + 1, input =>
    match skip input with
    | some 'n' :: some 'u' :: some 'l' :: some 'l' :: rest => some (.null, rest)
    | some 't' :: some 'r' :: some 'u' :: some 'e' :: rest => some (.bool true, rest)
    | some 'f' :: some 'a' :: some 'l' :: some 's' :: some 'e' :: rest => some (.bool false, rest)
    | some '"' :: rest => do
      let (text?, rest) ← stringToken rest
      match text? with
      | some s => some (.str s, rest)
      | none => some (.unreadable, rest)
    | some '[' :: rest =>
      match skip rest with
      | some ']' :: rest => some (.arr [], rest)
      | rest => do
        let (elements, rest) ← elements fuel rest
        some (.arr elements, rest)
    | some '{' :: rest =>
      match skip rest with
      | some '}' :: rest => some (.obj [], rest)
      | rest => do
        let (members?, rest) ← members fuel rest
        match members? with
        | some members => some (.obj members, rest)
        | none => some (.unreadable, rest)
    | input => do
      let (number, rest) ← numberToken input
      some (number.toJson, rest)

/-- The elements of an array up to its closing bracket. -/
def elements : Nat → Input → Option (List Json × Input)
  | 0, _ => none
  | fuel + 1, input => do
    let (j, rest) ← value fuel input
    match skip rest with
    | some ']' :: rest => some ([j], rest)
    | some ',' :: rest => do
      let (more, rest) ← elements fuel rest
      some (j :: more, rest)
    | _ => none

/-- The members of an object up to its closing brace, if every name has a value. -/
def members : Nat → Input → Option (Option (List (String × Json)) × Input)
  | 0, _ => none
  | fuel + 1, input =>
    match skip input with
    | some '"' :: rest => do
      let (name?, rest) ← stringToken rest
      match skip rest with
      | some ':' :: rest => do
        let (j, rest) ← value fuel rest
        match skip rest with
        | some '}' :: rest => some (name?.map fun name => [(name, j)], rest)
        | some ',' :: rest => do
          let (more?, rest) ← members fuel rest
          let all? : Option (List (String × Json)) := do
            let name ← name?
            let more ← more?
            some ((name, j) :: more)
          some (all?, rest)
        | _ => none
      | _ => none
    | _ => none

end

/-- The value of a whole text. Every level of nesting takes a character and at
most two steps, so the steps allowed are enough. -/
def parse? (input : Input) : Option Json :=
  match value (2 * input.length + 2) input with
  | some (j, rest) => if (skip rest).isEmpty then some j else none
  | none => none

/-- The value of a text. -/
def ofText? (s : String) : Option Json := parse? (s.toList.map some)

/-- The value of a text given as bytes. -/
def ofBytes? (bytes : List UInt8) : Option Json :=
  parse? <| (Utf8.pieces bytes).map fun
    | .char c => some c
    | .fault _ _ => none

end ClusterKeeper.Json
