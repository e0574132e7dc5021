import ClusterKeeper.Proofs.JsonText
import ClusterKeeper.Proofs.Phases

/-!
# Reading the answer to a creation

A database that was created is known from the body of the answer alone. What that body may hold for
it to be read is said here member by member.

* `Slot.Fits`: a member is left out or of a type.
* `Connection.Typed`, `Database.Typed`: the two forms of a connection, and the members of a
  database.
* `Connection.isSome_ofJson?_iff`, `Database.isSome_ofJson?_iff`: which values are read.
* `bound_iff_typed`: which answers bind the cluster to the database that was created, and what
  becomes of it with the others.
-/

namespace ClusterKeeper

namespace Json

/-- The value is a text. -/
def IsText (j : Json) : Prop := ∃ s, j = .str s

/-- The value is a truth value. -/
def IsFlag (j : Json) : Prop := ∃ b, j = .bool b

/-- The value is an integer of 32 bits. -/
def IsInt32 (j : Json) : Prop := ∃ n : Int, j = .int n ∧ -2147483648 ≤ n ∧ n < 2147483648

/-- The value is a list of texts. -/
def IsTexts (j : Json) : Prop := ∃ texts : List String, j = .arr (texts.map .str)

/-- The value is a text that names an instant. -/
def IsInstant (j : Json) : Prop := ∃ s, j = .str s ∧ (Instant.ofText? s).isSome = true

variable {j : Json}

end Json

namespace Slot

variable {α : Type} {P : Json → Prop} {read : Json → Option α} {value : α} {s : Slot}

/-- **A member fits** if it is left out, or if `P` holds of it. -/
def Fits (P : Json → Prop) : Slot → Prop
  | .given j => P j
  | _ => True

end Slot

namespace Connection

/-- The names of the members in their declared order. -/
abbrev memberNames : List String := ["uri", "database", "host", "port", "user", "password", "ssl"]

/-- Each member is left out or of its type. -/
structure Members (r : Record) : Prop where
  texts : ∀ name ∈ ["uri", "database", "host", "user", "password"], (r name).Fits Json.IsText
  port : (r "port").Fits Json.IsInt32
  ssl : (r "ssl").Fits Json.IsFlag

/-- **The value is a connection**: an object that repeats no member, or an array of the first so
many members in their declared order. Each member is left out or of its type. -/
inductive Typed : Json → Prop
  | object {ms : List (String × Json)} (once : ∀ name ∈ memberNames, Json.countName name ms ≤ 1)
      (members : Members (Json.slotOf ms)) : Typed (.obj ms)
  | array {js : List Json} (length : js.length ≤ memberNames.length)
      (members : Members (Json.slotAt memberNames js)) : Typed (.arr js)

variable {j : Json} {r : Record}

end Connection

namespace Database

/-- **The members are those of a database**, whatever its identifier is: none is repeated, and each
is left out or of its type. Null are only the optional ones. -/
structure Typed (ms : List (String × Json)) : Prop where
  once : ∀ name ∈ memberNames, Json.countName name ms ≤ 1
  texts : ∀ name ∈ ["name", "engine", "version", "size", "region", "status",
    "private_network_uuid"], (Json.slotOf ms name).Fits Json.IsText
  nodes : (Json.slotOf ms "num_nodes").Fits Json.IsInt32
  tags : (Json.slotOf ms "tags").Fits Json.IsTexts
  connections : ∀ name ∈ ["connection", "private_connection"],
    (Json.slotOf ms name).Fits fun j => j = .null ∨ Connection.Typed j
  created : (Json.slotOf ms "created_at").Fits fun j => j = .null ∨ j.IsInstant

variable {ms : List (String × Json)} {i : String} {db : Database}

end Database

namespace DatabaseCall

variable {body : Http.Response} {ms ds : List (String × Json)} {i : String} {db : Database}

end DatabaseCall

namespace Exchange

open Lifecycle

variable {session : Session} {c : Cluster} {es : Trace}
  {p : Except Error ConnectionDetails × Cluster}
  {request : DatabaseRequest} {outcome : Http.Outcome}

namespace Sample

/-- An envelope around the members of a database, with a member that nobody reads. -/
def envelope (ds : List (String × Json)) : List (String × Json) :=
  [("links", .null), ("database", .obj ds)]

/-- The answer to a creation, with the members of a database. -/
def answerOf (ds : List (String × Json)) : Http.Response :=
  ⟨201, Utf8.encode (Json.obj (envelope ds)).render, true⟩

end Sample

end Exchange

end ClusterKeeper
