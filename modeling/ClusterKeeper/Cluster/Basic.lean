import ClusterKeeper.Cluster.Condition
import ClusterKeeper.Cluster.Observation

/-!
# Database clusters

The resource that a user writes and the operator keeps: metadata, a specification,
and a status that is unset until the operator has something to say.

* `Cluster.externalName`, `Cluster.setExternalName`: the identifier that the remote API
  gave, kept as an annotation.
* `Cluster.setReady`, `Cluster.readyReason?`: the stage of life in the status.
* `Cluster.observed`, `Cluster.settleStatus`: the status from an observed database.
-/

namespace ClusterKeeper

/-- What happens to the remote database when the resource is deleted. -/
inductive DeletionPolicy where
  | delete
  | orphan
  deriving DecidableEq, Repr

namespace DeletionPolicy

/-- The policy as a text. -/
def text : DeletionPolicy → String
  | .delete => "Delete"
  | .orphan => "Orphan"

/-- The policy that a text names. -/
def parse? (s : String) : Option DeletionPolicy :=
  if s = "Delete" then some .delete else if s = "Orphan" then some .orphan else none

/-- The written form. -/
def toJson (p : DeletionPolicy) : Json := .str p.text

/-- Reading: a text, or an object with the text as its only member, which is null. -/
def ofJson? : Json → Option DeletionPolicy
  | .str s => parse? s
  | .obj [(name, .null)] => parse? name
  | _ => none

end DeletionPolicy

/-- A reference to a provider configuration. -/
structure ProviderConfigReference where
  name : String := "default"
  deriving DecidableEq, Repr, Inhabited

namespace ProviderConfigReference

/-- The written form. -/
def toJson (p : ProviderConfigReference) : Json := .fields [("name", some (.str p.name))]

/-- Reading. -/
def ofJson? (j : Json) : Option ProviderConfigReference := do
  let r ← j.record? ["name"]
  let name ← (r "name").required Json.text?
  some ⟨name⟩

end ProviderConfigReference

/-- A reference to a secret in a namespace. -/
structure SecretReference where
  name : String
  ns : String
  deriving DecidableEq, Repr

namespace SecretReference

/-- The written form. -/
def toJson (s : SecretReference) : Json := .fields [
  ("name", some (.str s.name)),
  ("namespace", some (.str s.ns))]

/-- Reading. -/
def ofJson? (j : Json) : Option SecretReference := do
  let r ← j.record? ["name", "namespace"]
  let name ← (r "name").required Json.text?
  let ns ← (r "namespace").required Json.text?
  some ⟨name, ns⟩

end SecretReference

/-- What a user asks for, and how. -/
structure Spec where
  forProvider : Parameters
  providerConfigRef : ProviderConfigReference := {}
  /-- The secret that connection details are written to. -/
  connectionSecretRef : Option SecretReference := none
  deletionPolicy : DeletionPolicy := .delete
  deriving DecidableEq, Repr

namespace Spec

/-- The written form. -/
def toJson (s : Spec) : Json := .fields [
  ("forProvider", some s.forProvider.toJson),
  ("providerConfigRef", some s.providerConfigRef.toJson),
  ("writeConnectionSecretToReference", s.connectionSecretRef.map SecretReference.toJson),
  ("deletionPolicy", some s.deletionPolicy.toJson)]

/-- Reading. -/
def ofJson? (j : Json) : Option Spec := do
  let r ← j.record? ["forProvider", "providerConfigRef", "writeConnectionSecretToReference",
    "deletionPolicy"]
  let forProvider ← (r "forProvider").required Parameters.ofJson?
  let providerConfigRef ← (r "providerConfigRef").default {} ProviderConfigReference.ofJson?
  let connectionSecretRef ←
    (r "writeConnectionSecretToReference").optional SecretReference.ofJson?
  let deletionPolicy ← (r "deletionPolicy").default .delete DeletionPolicy.ofJson?
  some { forProvider, providerConfigRef, connectionSecretRef, deletionPolicy }

end Spec

/-- What the operator says about a cluster. -/
structure Status where
  atProvider : Observation := {}
  conditions : List Condition := []
  deriving DecidableEq, Repr, Inhabited

namespace Status

/-- The written form. -/
def toJson (s : Status) : Json := .fields [
  ("atProvider", some s.atProvider.toJson),
  ("conditions", Json.listUnlessEmpty Condition.toJson s.conditions)]

/-- Reading. -/
def ofJson? (j : Json) : Option Status := do
  let r ← j.record? ["atProvider", "conditions"]
  let atProvider ← (r "atProvider").default {} Observation.ofJson?
  let conditions ← (r "conditions").default [] (Json.listOf? Condition.ofJson?)
  some { atProvider, conditions }

/-- Set a condition. -/
def setCondition (s : Status) (c : Condition) : Status :=
  { s with conditions := c.put s.conditions }

/-- The reason of the first Ready condition, if it has one that is known. -/
def readyReason? (s : Status) : Option Reason := do
  let c ← s.conditions.find? fun c => c.type = Condition.readyType
  let reason ← c.reason
  Reason.parse? reason

end Status

/-- The resource that a user writes and the operator keeps. -/
structure Cluster where
  metadata : Metadata
  spec : Spec
  status : Option Status := none
  deriving Repr

namespace Cluster

/-- The API version of clusters. -/
def apiVersion : String := "database.do.crossplane.io/v1alpha1"

/-- Their kind. -/
def kind : String := "DODatabaseCluster"

/-- The annotation that holds the identifier the remote API gave. -/
def externalNameKey : String := "crossplane.io/external-name"

/-- The written form. -/
def toJson (c : Cluster) : Json := .fields [
  ("apiVersion", some (.str apiVersion)),
  ("kind", some (.str kind)),
  ("metadata", some c.metadata.toJson),
  ("spec", some c.spec.toJson),
  ("status", c.status.map Status.toJson)]

/-- Reading. -/
def ofJson? (j : Json) : Option Cluster := do
  let r ← j.record? ["metadata", "spec", "status"]
  let metadata ← (r "metadata").required Metadata.ofJson?
  let spec ← (r "spec").required Spec.ofJson?
  let status ← (r "status").optional Status.ofJson?
  some { metadata, spec, status }

/-- The name, or else what names are generated from. -/
def anyName (c : Cluster) : String := c.metadata.anyName

/-- The identifier that the remote API gave, empty if there is none. -/
def externalName (c : Cluster) : String :=
  (c.metadata.annotations.bind (·.get? externalNameKey)).getD ""

/-- Keep the identifier that the remote API gave. -/
def setExternalName (c : Cluster) (name : String) : Cluster :=
  { c with
    metadata := { c.metadata with
      annotations := some ((c.metadata.annotations.getD .empty).insert externalNameKey name) } }

/-- Set a condition, on an empty status if there is none. -/
def setCondition (c : Cluster) (condition : Condition) : Cluster :=
  { c with status := some ((c.status.getD {}).setCondition condition) }

/-- Set the Ready condition. -/
def setReady (c : Cluster) (reason : Reason) (now : Instant) : Cluster :=
  c.setCondition (reason.condition now)

/-- The stage of life in the status. -/
def readyReason? (c : Cluster) : Option Reason := c.status.bind Status.readyReason?

/-- Record the observation of a database. -/
def observed (c : Cluster) (d : Database) : Cluster :=
  { c with status := some { c.status.getD {} with atProvider := Observation.ofDatabase d } }

/-- The reason that the recorded remote status calls for. -/
def remoteReason? (c : Cluster) : Option Reason :=
  c.status.bind fun s => s.atProvider.status.bind Reason.ofRemoteStatus?

/-- Set the Ready condition that the recorded remote status calls for, if any. -/
def settleStatus (c : Cluster) (now : Instant) : Cluster :=
  match c.remoteReason? with
  | some reason => c.setReady reason now
  | none => c

/-- Take unset parameters from an observed database. -/
def lateInitialize (c : Cluster) (d : Database) : Cluster :=
  { c with spec := { c.spec with forProvider := c.spec.forProvider.lateInitialize d } }

end Cluster

end ClusterKeeper
