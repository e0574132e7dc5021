import ClusterKeeper.Manifest.Schema
import ClusterKeeper.Manifest.Yaml

/-!
# Resource definitions

What the object store is told about a kind of resource before it keeps any.

* `Definition.manifest`: the document.
-/

namespace ClusterKeeper

/-- A column that is shown in a listing. -/
structure Column where
  name : String
  type : String
  /-- Where the value is found. -/
  jsonPath : String

/-- A kind of resource. -/
structure Definition where
  group : String
  version : String := "v1alpha1"
  kind : String
  plural : String
  singular : String
  shortNames : List String := []
  columns : List Column
  spec : Schema
  status : Option Schema := none

namespace Definition

/-- A column as JSON. -/
def columnJson (c : Column) : Json := .obj [
  ("jsonPath", .str c.jsonPath), ("name", .str c.name), ("type", .str c.type)]

/-- The schema of whole resources. -/
def rootSchema (d : Definition) : Json :=
  let root : Schema := .object
    { description := some s!"Auto-generated derived type for {d.kind}Spec via `CustomResource`" }
    (("spec", true, d.spec) :: (d.status.map fun s => ("status", false, s)).toList)
  match root.toJson with
  | .obj ms => .obj (Schema.sorted (("title", .str d.kind) :: ms))
  | j => j

/-- The version that is served and stored. -/
def versionJson (d : Definition) : Json := .obj [
  ("additionalPrinterColumns", .arr (d.columns.map columnJson)),
  ("name", .str d.version),
  ("schema", .obj [("openAPIV3Schema", d.rootSchema)]),
  ("served", .bool true),
  ("storage", .bool true),
  ("subresources", .obj (if d.status.isSome then [("status", .obj [])] else []))]

/-- The names of the kind. -/
def namesJson (d : Definition) : Json := .obj [
  ("categories", .arr []),
  ("kind", .str d.kind),
  ("plural", .str d.plural),
  ("shortNames", .arr (d.shortNames.map .str)),
  ("singular", .str d.singular)]

/-- The definition as JSON. -/
def toJson (d : Definition) : Json := .obj [
  ("apiVersion", .str "apiextensions.k8s.io/v1"),
  ("kind", .str "CustomResourceDefinition"),
  ("metadata", .obj [("name", .str s!"{d.plural}.{d.group}")]),
  ("spec", .obj [
    ("group", .str d.group),
    ("names", d.namesJson),
    ("scope", .str "Cluster"),
    ("versions", .arr [d.versionJson])])]

/-- The document. -/
def manifest (d : Definition) : String := Yaml.document d.toJson

end Definition

end ClusterKeeper
