/-!
# JSON values

A value as it is read: whole numbers that 64 bits hold are kept as they are, all
others as doubles. A value may be well formed and still
have no meaning, such as a string with half of a surrogate pair; it is kept as
`unreadable`, since a reader that skips it never notices.

* `Json.plain?`: the value with meaning all through, repeated members settled.
* `Json.fields`: an object that leaves out the members that are not there.
* `Json.text?`, `Json.flag?`, `Json.int32?`, `Json.int64?`, `Json.listOf?`: readers of one type.
-/

namespace ClusterKeeper

/-- A JSON value. -/
inductive Json where
  | null
  | bool (b : Bool)
  /-- A number written as an integer that 64 bits hold. -/
  | int (n : Int)
  /-- Any other number. -/
  | float (x : Float)
  | str (s : String)
  | arr (elements : List Json)
  /-- The members in the order they were written, repeated names included. -/
  | obj (members : List (String × Json))
  /-- Well formed, but without a value. -/
  | unreadable
  deriving Repr, Inhabited

namespace Json

mutual

/-- The value with only the last of each repeated member, if all of it has a
meaning and it is nested at most `depth` deep. -/
def plain? (depth : Nat) : Json → Option Json
  | .unreadable => none
  | .arr xs =>
    match depth with
    | 0 => none
    | depth + 1 => (plainElements? depth xs).map .arr
  | .obj ms =>
    match depth with
    | 0 => none
    | depth + 1 => (plainMembers? depth ms).map .obj
  | j => some j

/-- `plain?` of each element. -/
def plainElements? (depth : Nat) : List Json → Option (List Json)
  | [] => some []
  | j :: rest => do
    let j ← plain? depth j
    let rest ← plainElements? depth rest
    some (j :: rest)

/-- `plain?` of each member, those left out that a later one repeats. -/
def plainMembers? (depth : Nat) : List (String × Json) → Option (List (String × Json))
  | [] => some []
  | (name, j) :: rest => do
    let j ← plain? depth j
    let rest ← plainMembers? depth rest
    some (if rest.any (·.1 == name) then rest else (name, j) :: rest)

end

/-- An object of those members whose values are set. -/
def fields (ms : List (String × Option Json)) : Json :=
  .obj (ms.filterMap fun (name, j?) => j?.map fun j => (name, j))

/-- A list. -/
def list {α : Type} (write : α → Json) (xs : List α) : Json := .arr (xs.map write)

/-- A list, unset if it is empty. -/
def listUnlessEmpty {α : Type} (write : α → Json) (xs : List α) : Option Json :=
  if xs.isEmpty then none else some (list write xs)

/-- A text, unset if it is empty. -/
def textUnlessEmpty (s : String) : Option Json := if s = "" then none else some (.str s)

/-- The value of a setting that may be unset. -/
def ofOption {α : Type} (write : α → Json) : Option α → Json
  | some a => write a
  | none => .null

/-- A text. -/
def text? : Json → Option String
  | .str s => some s
  | _ => none

/-- A truth value. -/
def flag? : Json → Option Bool
  | .bool b => some b
  | _ => none

/-- An integer of 32 bits. -/
def int32? : Json → Option Int32
  | .int n => if -2147483648 ≤ n ∧ n < 2147483648 then some (Int32.ofInt n) else none
  | _ => none

/-- An integer of 64 bits. -/
def int64? : Json → Option Int64
  | .int n =>
    if -9223372036854775808 ≤ n ∧ n < 9223372036854775808 then some (Int64.ofInt n) else none
  | _ => none

/-- A number below `bound`. -/
def below? (bound : Nat) : Json → Option Nat
  | .int n => if 0 ≤ n ∧ n < bound then some n.toNat else none
  | _ => none

/-- A list whose elements `read` reads. -/
def listOf? {α : Type} (read : Json → Option α) : Json → Option (List α)
  | .arr xs => xs.mapM read
  | _ => none

/-- The members of an object. -/
def members? : Json → Option (List (String × Json))
  | .obj ms => some ms
  | _ => none

/-- The first member with the name. -/
def get? (name : String) : Json → Option Json
  | .obj ms => ms.lookup name
  | _ => none

end Json

end ClusterKeeper
