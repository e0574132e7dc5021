import ClusterKeeper.Dict
import ClusterKeeper.Instant.Printer
import ClusterKeeper.Instant.Reader
import ClusterKeeper.Json.Record

/-!
# Metadata of stored objects

What the object store keeps about every object. Only known members are read;
one that is null is unset, and one that is unset is not written. Times are
written in whole seconds.

* `Metadata.anyName`: the name, or what names are generated from.
-/

namespace ClusterKeeper

/-- How often an unknown member that is kept may be nested. -/
def keptDepth : Nat := 123

/-- An instant as JSON. -/
def Instant.toJson (t : Instant) : Json := .str t.text

/-- An instant from JSON. -/
def Instant.ofJson? (j : Json) : Option Instant := j.text?.bind Instant.ofText?

/-- An object that owns another. -/
structure OwnerReference where
  apiVersion : String
  blockOwnerDeletion : Option Bool
  controller : Option Bool
  kind : String
  name : String
  uid : String
  deriving DecidableEq, Repr

namespace OwnerReference

/-- The written form. -/
def toJson (o : OwnerReference) : Json := .fields [
  ("apiVersion", some (.str o.apiVersion)),
  ("blockOwnerDeletion", o.blockOwnerDeletion.map .bool),
  ("controller", o.controller.map .bool),
  ("kind", some (.str o.kind)),
  ("name", some (.str o.name)),
  ("uid", some (.str o.uid))]

/-- Reading: a text that is unset is empty. -/
def ofJson? (j : Json) : Option OwnerReference := do
  let ms ← j.members?
  let apiVersion ← Json.loose? "apiVersion" Json.text? ms
  let blockOwnerDeletion ← Json.loose? "blockOwnerDeletion" Json.flag? ms
  let controller ← Json.loose? "controller" Json.flag? ms
  let kind ← Json.loose? "kind" Json.text? ms
  let name ← Json.loose? "name" Json.text? ms
  let uid ← Json.loose? "uid" Json.text? ms
  some ⟨apiVersion.getD "", blockOwnerDeletion, controller, kind.getD "", name.getD "",
    uid.getD ""⟩

end OwnerReference

/-- Which fields of an object a manager has set. -/
structure ManagedFields where
  apiVersion : Option String
  fieldsType : Option String
  fieldsV1 : Option Json
  manager : Option String
  operation : Option String
  subresource : Option String
  time : Option Instant
  deriving Repr

namespace ManagedFields

/-- The written form. -/
def toJson (m : ManagedFields) : Json := .fields [
  ("apiVersion", m.apiVersion.map .str),
  ("fieldsType", m.fieldsType.map .str),
  ("fieldsV1", m.fieldsV1.map id),
  ("manager", m.manager.map .str),
  ("operation", m.operation.map .str),
  ("subresource", m.subresource.map .str),
  ("time", m.time.map (fun t => t.wholeSecond.toJson))]

/-- Reading. -/
def ofJson? (j : Json) : Option ManagedFields := do
  let ms ← j.members?
  let apiVersion ← Json.loose? "apiVersion" Json.text? ms
  let fieldsType ← Json.loose? "fieldsType" Json.text? ms
  let fieldsV1 ← Json.loose? "fieldsV1" (Json.plain? keptDepth) ms
  let manager ← Json.loose? "manager" Json.text? ms
  let operation ← Json.loose? "operation" Json.text? ms
  let subresource ← Json.loose? "subresource" Json.text? ms
  let time ← Json.loose? "time" Instant.ofJson? ms
  some { apiVersion, fieldsType, fieldsV1, manager, operation, subresource, time }

end ManagedFields

/-- What the object store keeps about an object. -/
structure Metadata where
  annotations : Option (Dict String) := none
  creationTimestamp : Option Instant := none
  deletionGracePeriodSeconds : Option Int64 := none
  deletionTimestamp : Option Instant := none
  finalizers : Option (List String) := none
  generateName : Option String := none
  generation : Option Int64 := none
  labels : Option (Dict String) := none
  managedFields : Option (List ManagedFields) := none
  name : Option String := none
  /-- The namespace that the object is in. -/
  ns : Option String := none
  ownerReferences : Option (List OwnerReference) := none
  resourceVersion : Option String := none
  selfLink : Option String := none
  uid : Option String := none
  deriving Repr, Inhabited

namespace Metadata

/-- The name, or else what names are generated from, or else nothing. -/
def anyName (m : Metadata) : String := (m.name <|> m.generateName).getD ""

/-- A time as JSON, in whole seconds. -/
def timeJson (t : Instant) : Json := t.wholeSecond.toJson

/-- An integer of 64 bits as JSON. -/
def int64Json (n : Int64) : Json := .int n.toInt

/-- The written form. -/
def toJson (m : Metadata) : Json := .fields [
  ("annotations", m.annotations.map (Dict.toJson .str)),
  ("creationTimestamp", m.creationTimestamp.map timeJson),
  ("deletionGracePeriodSeconds", m.deletionGracePeriodSeconds.map int64Json),
  ("deletionTimestamp", m.deletionTimestamp.map timeJson),
  ("finalizers", m.finalizers.map (Json.list .str)),
  ("generateName", m.generateName.map .str),
  ("generation", m.generation.map int64Json),
  ("labels", m.labels.map (Dict.toJson .str)),
  ("managedFields", m.managedFields.map (Json.list ManagedFields.toJson)),
  ("name", m.name.map .str),
  ("namespace", m.ns.map .str),
  ("ownerReferences", m.ownerReferences.map (Json.list OwnerReference.toJson)),
  ("resourceVersion", m.resourceVersion.map .str),
  ("selfLink", m.selfLink.map .str),
  ("uid", m.uid.map .str)]

/-- Reading. -/
def ofJson? (j : Json) : Option Metadata := do
  let ms ← j.members?
  let annotations ← Json.loose? "annotations" (Dict.ofJson? Json.text?) ms
  let creationTimestamp ← Json.loose? "creationTimestamp" Instant.ofJson? ms
  let deletionGracePeriodSeconds ← Json.loose? "deletionGracePeriodSeconds" Json.int64? ms
  let deletionTimestamp ← Json.loose? "deletionTimestamp" Instant.ofJson? ms
  let finalizers ← Json.loose? "finalizers" (Json.listOf? Json.text?) ms
  let generateName ← Json.loose? "generateName" Json.text? ms
  let generation ← Json.loose? "generation" Json.int64? ms
  let labels ← Json.loose? "labels" (Dict.ofJson? Json.text?) ms
  let managedFields ← Json.loose? "managedFields" (Json.listOf? ManagedFields.ofJson?) ms
  let name ← Json.loose? "name" Json.text? ms
  let ns ← Json.loose? "namespace" Json.text? ms
  let ownerReferences ← Json.loose? "ownerReferences" (Json.listOf? OwnerReference.ofJson?) ms
  let resourceVersion ← Json.loose? "resourceVersion" Json.text? ms
  let selfLink ← Json.loose? "selfLink" Json.text? ms
  let uid ← Json.loose? "uid" Json.text? ms
  some { annotations, creationTimestamp, deletionGracePeriodSeconds, deletionTimestamp, finalizers,
         generateName, generation, labels, managedFields, name, ns, ownerReferences,
         resourceVersion, selfLink, uid }

end Metadata

end ClusterKeeper
