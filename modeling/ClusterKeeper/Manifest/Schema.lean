import ClusterKeeper.Json.Basic

/-!
# Schemas

What the object store accepts as a resource, member by member.

* `Schema.toJson`: the written form, with members in the order of their names.
-/

namespace ClusterKeeper

namespace Schema

/-- What is said of a value besides its type. -/
structure Note where
  description : Option String := none
  /-- The value that stands for a missing one. -/
  fallback : Option Json := none
  nullable : Bool := false

end Schema

/-- The values that are accepted. -/
inductive Schema where
  | text (note : Schema.Note)
  | choice (note : Schema.Note) (values : List String)
  | instant (note : Schema.Note)
  | int32 (note : Schema.Note)
  | list (note : Schema.Note) (item : Schema)
  /-- An object: the name of each property, whether it is required, and its schema. -/
  | object (note : Schema.Note) (properties : List (String × Bool × Schema))

namespace Schema

/-- Members in the order of their names. -/
def sorted {α : Type} (ms : List (String × α)) : List (String × α) :=
  ms.mergeSort fun a b => a.1 == b.1 || decide (a.1 < b.1)

/-- The parts of a schema that are set, in the order of their names. -/
def write (note : Note) (type : String) (parts : List (String × Json)) : Json :=
  let notes : List (String × Option Json) := [
    ("default", note.fallback),
    ("description", note.description.map .str),
    ("nullable", if note.nullable then some (.bool true) else none),
    ("type", some (.str type))]
  .obj (sorted (parts ++ notes.filterMap fun (name, j?) => j?.map fun j => (name, j)))

/-- The names of the required properties. -/
def requiredNames (properties : List (String × Bool × Schema)) : List (String × Json) :=
  let names := (properties.filter fun p => p.2.1).map fun p => (p.1, ())
  if names.isEmpty then [] else [("required", .arr ((sorted names).map fun p => .str p.1))]

mutual

/-- The written form. -/
def toJson : Schema → Json
  | .text note => write note "string" []
  | .choice note values => write note "string" [("enum", .arr (values.map .str))]
  | .instant note => write note "string" [("format", .str "date-time")]
  | .int32 note => write note "integer" [("format", .str "int32")]
  | .list note item => write note "array" [("items", toJson item)]
  | .object note properties =>
    write note "object"
      (("properties", .obj (sorted (propertiesJson properties))) :: requiredNames properties)

/-- The written forms of properties. -/
def propertiesJson : List (String × Bool × Schema) → List (String × Json)
  | [] => []
  | (name, _, schema) :: rest => (name, toJson schema) :: propertiesJson rest

end

end Schema

end ClusterKeeper
