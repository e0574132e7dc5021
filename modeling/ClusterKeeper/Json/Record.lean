import ClusterKeeper.Json.Basic

/-!
# Records

A record is written as an object or, with its members in their declared order,
as an array. Members that are not declared are ignored, and one that is declared
may not be repeated. What may be left out depends on the form: an object may
leave out an optional member, an array may only end before members that have a
default.

* `Json.record?`: what a value holds for each declared member.
* `Slot.required`, `Slot.optional`, `Slot.default`, `Slot.optionalDefault`: the four
  kinds of member.
* `Json.loose?`: the last of repeated members, as the types of the object store
  are read.
-/

namespace ClusterKeeper

/-- What a record holds for a declared member. -/
inductive Slot where
  /-- An object without the member. -/
  | absent
  /-- An array that ends before the member. -/
  | ended
  | given (j : Json)

namespace Slot

variable {α : Type}

/-- A member that must be there. -/
def required (read : Json → Option α) : Slot → Option α
  | .given j => read j
  | _ => none

/-- A member that may be null, and absent from an object. -/
def optional (read : Json → Option α) : Slot → Option (Option α)
  | .given .null => some none
  | .given j => (read j).map some
  | .absent => some none
  | .ended => none

/-- A member with a default, which may be left out and not be null. -/
def default (value : α) (read : Json → Option α) : Slot → Option α
  | .given j => read j
  | _ => some value

/-- A member that may be left out or null. -/
def optionalDefault (read : Json → Option α) : Slot → Option (Option α)
  | .given .null => some none
  | .given j => (read j).map some
  | _ => some none

end Slot

/-- What each declared member of a record holds. -/
abbrev Record := String → Slot

namespace Json

/-- How often a name occurs among the members. -/
def countName (name : String) (ms : List (String × Json)) : Nat :=
  ms.countP fun m => m.1 == name

/-- What an object holds for a name. -/
def slotOf (ms : List (String × Json)) (name : String) : Slot :=
  match ms.lookup name with
  | some j => .given j
  | none => .absent

/-- What an array holds for a name, given the names in order. -/
def slotAt : List String → List Json → String → Slot
  | declared :: names, j :: rest, name =>
    if name = declared then .given j else slotAt names rest name
  | _, _, _ => .ended

/-- What a value holds for each of the declared names. -/
def record? (names : List String) : Json → Option Record
  | .obj ms => if names.all fun name => countName name ms ≤ 1 then some (slotOf ms) else none
  | .arr xs => if xs.length ≤ names.length then some (slotAt names xs) else none
  | _ => none

/-- The last of the members with the name. Each of them must be null or read;
none and null alike are unset. -/
def loose? {α : Type} (name : String) (read : Json → Option α) :
    List (String × Json) → Option (Option α)
  | [] => some none
  | (other, j) :: rest => do
    let later ← loose? name read rest
    if other = name then
      let here ← (Slot.given j).optional read
      some (if (rest.any fun m => m.1 == name) then later else here)
    else some later

end Json

end ClusterKeeper
