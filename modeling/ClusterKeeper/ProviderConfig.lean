import ClusterKeeper.Resource.Metadata

/-!
# Provider configurations

A provider configuration says where the token of the remote API is kept.
-/

namespace ClusterKeeper

/-- A key in a secret of a namespace. -/
structure SecretKeySelector where
  ns : String
  name : String
  key : String
  deriving DecidableEq, Repr

namespace SecretKeySelector

/-- The written form. -/
def toJson (s : SecretKeySelector) : Json := .fields [
  ("namespace", some (.str s.ns)),
  ("name", some (.str s.name)),
  ("key", some (.str s.key))]

/-- Reading: the key is `token` by default. -/
def ofJson? (j : Json) : Option SecretKeySelector := do
  let r ← j.record? ["namespace", "name", "key"]
  let ns ← (r "namespace").required Json.text?
  let name ← (r "name").required Json.text?
  let key ← (r "key").default "token" Json.text?
  some ⟨ns, name, key⟩

end SecretKeySelector

/-- Where the token comes from. -/
structure ProviderCredentials where
  source : String
  secretRef : Option SecretKeySelector
  deriving DecidableEq, Repr

namespace ProviderCredentials

/-- The source that names a secret. -/
def secretSource : String := "Secret"

/-- The written form. -/
def toJson (c : ProviderCredentials) : Json := .fields [
  ("source", some (.str c.source)),
  ("secretRef", c.secretRef.map SecretKeySelector.toJson)]

/-- Reading: the source is a secret by default. -/
def ofJson? (j : Json) : Option ProviderCredentials := do
  let r ← j.record? ["source", "secretRef"]
  let source ← (r "source").default secretSource Json.text?
  let secretRef ← (r "secretRef").optional SecretKeySelector.ofJson?
  some ⟨source, secretRef⟩

end ProviderCredentials

/-- A provider configuration. -/
structure ProviderConfig where
  metadata : Metadata
  credentials : ProviderCredentials
  deriving Repr

namespace ProviderConfig

/-- The API version of provider configurations. -/
def apiVersion : String := "do.crossplane.io/v1alpha1"

/-- Their kind. -/
def kind : String := "ProviderConfig"

/-- The specification, which holds the credentials. -/
def specOfJson? (j : Json) : Option ProviderCredentials := do
  let r ← j.record? ["credentials"]
  (r "credentials").required ProviderCredentials.ofJson?

/-- The written form. -/
def toJson (p : ProviderConfig) : Json := .fields [
  ("apiVersion", some (.str apiVersion)),
  ("kind", some (.str kind)),
  ("metadata", some p.metadata.toJson),
  ("spec", some (.fields [("credentials", some p.credentials.toJson)]))]

/-- Reading. -/
def ofJson? (j : Json) : Option ProviderConfig := do
  let r ← j.record? ["metadata", "spec"]
  let metadata ← (r "metadata").required Metadata.ofJson?
  let credentials ← (r "spec").required specOfJson?
  some ⟨metadata, credentials⟩

/-- The name shown in messages. -/
def anyName (p : ProviderConfig) : String := p.metadata.anyName

end ProviderConfig

end ClusterKeeper
