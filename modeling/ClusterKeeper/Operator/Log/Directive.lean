import ClusterKeeper.Operator.Log.Entry
import ClusterKeeper.Text.Alphanumeric
import ClusterKeeper.Text.Blank
import ClusterKeeper.Text.Numeral
import ClusterKeeper.Text.Pattern
import ClusterKeeper.Text.Utf8

/-!
# Directives

A directive says up to which rank entries are shown, and of which of them it speaks:
of a target, of a span in brackets, of a field in braces. One word alone is a level,
or else a target.

* `Directive.ofPiece?`: the directive that a text writes.
* `Directive.applies`: whether it speaks of the operator's own entries.
* `Directive.atLeast`: which of two directives is the more special.
-/

namespace ClusterKeeper.Log

/-- A text in bytes. -/
abbrev Octets := List UInt8

/-- Show entries of up to a rank, of targets that start so and with a field of that
name. Both are given in bytes. -/
structure Directive where
  start : Option Octets := none
  field : Option Octets := none
  rank : Nat
  deriving DecidableEq, Repr

/-- The rank of a number: 0 shows nothing. -/
def numberedRank? (word : String) : Option Nat :=
  match Numeral.read 18446744073709551616 word with
  | .ok n => if n ≤ 5 then some n else none
  | .error _ => none

/-- The rank of a level that is given by name. -/
def namedRank? (word : String) : Option Nat :=
  let name := String.ofList (word.toList.map Char.toLower)
  if name = "off" then some 0
  else if name = "error" then some 1
  else if name = "warn" then some 2
  else if name = "info" then some 3
  else if name = "debug" then some 4
  else if name = "trace" then some 5
  else none

/-- The rank that a word stands for. -/
def rank? (word : Octets) : Option Nat := do
  let word ← (Utf8.decode word).toOption
  numberedRank? word <|> namedRank? word

/-- Whether a character may start a directive, brackets apart. -/
def startsDirective (c : Char) : Bool :=
  c == '-' || c == ':' || c == '_' || Text.isAlphanumeric c

namespace Directive

/-- The rank after an equals sign: no word at all stands for the last. -/
def rankAfter? (word : Octets) : Option Nat := if word.isEmpty then some 5 else rank? word

/-- The level of a directive, which `rest` holds after an equals sign, or nothing. It
stands at a place of `whole`. -/
def level? (whole : Octets) (place : Nat) : Octets → Option Nat
  | [] => some 5
  | b :: _ => if b = 0x3D then rankAfter? (whole.drop (place + 1)) else none

/-- What stands in `whole` from one place to another. -/
def part (whole : Octets) (start stop : Nat) : Octets := (whole.take stop).drop start

/-- Whether a text is a number, with a sign, a fraction and an exponent if wanted. -/
def isNumber (cs : List Char) : Bool :=
  let unsigned (cs : List Char) : List Char :=
    if cs.head? = some '+' ∨ cs.head? = some '-' then cs.tail else cs
  let name := String.ofList ((unsigned cs).map Char.toLower)
  let (whole, rest) := (unsigned cs).span Char.isDigit
  let (fraction, rest) := if rest.head? = some '.' then rest.tail.span Char.isDigit else ([], rest)
  let isExponent : Bool :=
    match rest with
    | [] => true
    | c :: rest =>
      (c == 'e' || c == 'E') && unsigned rest ≠ [] && (unsigned rest).all Char.isDigit
  name = "inf" ∨ name = "infinity" ∨ name = "nan" ∨
    (isExponent ∧ (whole ≠ [] ∨ fraction ≠ []))

/-- Whether the value of a field can be looked for: it is a number or a pattern. -/
def isValue (value : Octets) : Bool :=
  match Utf8.decode value with
  | .ok text => isNumber text.toList || Text.Pattern.isWellFormed text.toList
  | .error _ => false

/-- Whether a field is given without a value, or with one that can be looked for. -/
def isField (field : Octets) : Bool :=
  match field.dropWhile (· ≠ 0x3D) with
  | [] => true
  | _ :: value => isValue (value.takeWhile (· ≠ 0x3D))

/-- A directive with braces, in which a field is named: what follows them stands at
`place`. A field with a value makes a directive on spans. -/
def withField? (whole : Octets) (start : Option Octets) (inSpan : Bool) (place : Nat)
    (inner : Octets) : Option (Option Directive) := do
  let (name, rest) := inner.span (· ≠ 0x7D)
  let field := part whole place (place + name.length)
  if name.isEmpty ∨ ¬ isField field then none
  match rest with
  | _ :: b :: rest =>
    let rank ← if b = 0x5D then level? whole (place + name.length + 2) rest else none
    some (if inSpan ∨ field.contains 0x3D then none else some ⟨start, some field, rank⟩)
  | _ => none

/-- A directive with brackets: `inner` follows the first, and stands at `place`. One
that names a span is accepted and shows nothing of what stands outside of spans. -/
def withBrackets? (whole : Octets) (start : Option Octets) (place : Nat) (inner : Octets) :
    Option (Option Directive) :=
  let (name, rest) := inner.span fun b => b ≠ 0x5D ∧ b ≠ 0x7B
  let place := place + name.length + 1
  match rest with
  | b :: rest =>
    if b = 0x5D then (level? whole place rest).map fun _ => none
    else withField? whole start (!name.isEmpty) place rest
  | [] => none

/-- One directive: a level, a target, or both. -/
def ofWord? (whole word : Octets) : Option (Option Directive) :=
  let (start, rest) := word.span fun b => b ≠ 0x3D ∧ b ≠ 0x5B
  let place := start.length
  match rest with
  | [] =>
    match rank? whole with
    | some rank => some (some ⟨none, none, rank⟩)
    | none => some (some ⟨some whole, none, 5⟩)
  | b :: inner =>
    if b = 0x5B then
      withBrackets? whole (if start.isEmpty then none else some (whole.take place))
        (place + 1) inner
    else (level? whole place rest).map fun rank => some ⟨some (whole.take place), none, rank⟩

/-- What a piece of a filter directs. Places are counted without the blanks around
the piece, and its parts are taken with them: a directive after a blank has lost its
meaning. -/
def ofPiece? (piece : List Char) : Option (Option Directive) :=
  match Text.dropEndWhile Text.isBlank (piece.dropWhile Text.isBlank) with
  | [] => none
  | c :: rest =>
    if c = '[' ∨ startsDirective c then
      ofWord? (piece.flatMap String.utf8EncodeChar) ((c :: rest).flatMap String.utf8EncodeChar)
    else none

/-- Whether the directive is about the operator's own entries, which have a message
and no other field. -/
def applies (d : Directive) : Bool :=
  (d.start.getD []).isPrefixOf (Utf8.encode target) &&
    (d.field.getD (Utf8.encode "message") == Utf8.encode "message")

/-- Whether a directive is at least as special as another: it has the longer target,
or one no shorter and a field. -/
def atLeast (d e : Directive) : Bool :=
  let size (d : Directive) : Nat := (d.start.map (·.length + 1)).getD 0
  size e < size d || (size d == size e && (d.field.isSome || e.field.isNone))

end Directive

end ClusterKeeper.Log
