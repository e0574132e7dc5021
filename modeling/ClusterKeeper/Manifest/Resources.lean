import ClusterKeeper.Manifest.Definition

/-!
# The operator's resources

The definitions of database clusters and provider configurations.

* `Manifest.all`: their documents.
* `Manifest.stream`: the documents one after another, each after a line of hyphens.
-/

namespace ClusterKeeper.Manifest

/-- A description and nothing else. -/
def about (description : String) : Schema.Note := { description := some description }

/-- A description of what may be null. -/
def aboutNullable (description : String) : Schema.Note :=
  { description := some description, nullable := true }

/-- What may be null. -/
def nullable : Schema.Note := { nullable := true }

/-- The creation time of a resource. -/
def ageColumn : Column := ⟨"Age", "date", ".metadata.creationTimestamp"⟩

/-- What a user asks for. -/
def parameters : Schema := .object (about "Desired state of the remote database cluster") [
  ("engine", false,
    .text (aboutNullable "Database engine slug (pg, mysql, redis, mongodb, kafka)")),
  ("version", false, .text (aboutNullable "Engine version")),
  ("numNodes", true, .int32 (about "Number of nodes in the cluster")),
  ("size", true, .text (about "Node size slug, e.g. db-s-1vcpu-1gb")),
  ("region", true, .text (about "Region slug, e.g. nyc1")),
  ("privateNetworkUUID", false, .text (aboutNullable "VPC the cluster is placed in")),
  ("tags", false, .list (about "Tags applied to the cluster") (.text {}))]

/-- What a user asks for, and how. -/
def clusterSpec : Schema := .object (about "DODatabaseCluster resource specification") [
  ("forProvider", true, parameters),
  ("providerConfigRef", false, .object
    { description := some "ProviderConfig holding the DigitalOcean credentials"
      fallback := some (.obj [("name", .str "default")]) }
    [("name", true, .text {})]),
  ("writeConnectionSecretToReference", false, .object
    (aboutNullable "Secret to publish connection details to")
    [("name", true, .text (about "Secret name")),
      ("namespace", true, .text (about "Secret namespace"))]),
  ("deletionPolicy", false, .choice
    { description := some "What happens to the remote cluster when this resource is deleted"
      fallback := some (.str "Delete") }
    ["Delete", "Orphan"])]

/-- What the status says about the database. -/
def observation : Schema := .object
  { description := some "Mirror of the remote cluster", fallback := some (.obj []) } [
  ("id", false, .text (aboutNullable "Identifier assigned by DigitalOcean")),
  ("name", false, .text nullable),
  ("engine", false, .text nullable),
  ("version", false, .text nullable),
  ("numNodes", false, .int32 nullable),
  ("size", false, .text nullable),
  ("region", false, .text nullable),
  ("status", false,
    .text (aboutNullable
      "Remote lifecycle status (creating, online, resizing, migrating, forking)")),
  ("createdAt", false, .instant nullable),
  ("privateNetworkUUID", false, .text nullable),
  ("tags", false, .list {} (.text {}))]

/-- A condition. -/
def condition : Schema := .object (about "Status condition") [
  ("type", true, .text (about "Condition type (Ready)")),
  ("status", true, .text (about "Status (True, False, Unknown)")),
  ("lastTransitionTime", true, .instant (about "Last transition time")),
  ("reason", false, .text (aboutNullable "Reason for the condition")),
  ("message", false, .text (aboutNullable "Human-readable message"))]

/-- What the operator says about a cluster. -/
def clusterStatus : Schema := .object (aboutNullable "DODatabaseCluster status") [
  ("atProvider", false, observation),
  ("conditions", false, .list (about "Status conditions") condition)]

/-- Database clusters. -/
def cluster : Definition where
  group := "database.do.crossplane.io"
  kind := "DODatabaseCluster"
  plural := "dodatabaseclusters"
  singular := "dodatabasecluster"
  shortNames := ["dodb"]
  columns := [
    ⟨"Ready", "string", ".status.conditions[?(@.type=='Ready')].reason"⟩,
    ⟨"Engine", "string", ".spec.forProvider.engine"⟩,
    ⟨"Region", "string", ".spec.forProvider.region"⟩,
    ⟨"State", "string", ".status.atProvider.status"⟩,
    ⟨"External-Name", "string", ".metadata.annotations.crossplane\\.io/external-name"⟩,
    ageColumn]
  spec := clusterSpec
  status := some clusterStatus

/-- The key of a secret that holds the token. -/
def secretRef : Schema := .object (aboutNullable "Key within a namespaced Secret") [
  ("namespace", true, .text {}),
  ("name", true, .text {}),
  ("key", false, .text
    { description := some "Key holding the token (default: token)"
      fallback := some (.str "token") })]

/-- Provider configurations. -/
def providerConfig : Definition where
  group := "do.crossplane.io"
  kind := "ProviderConfig"
  plural := "providerconfigs"
  singular := "providerconfig"
  columns := [
    ⟨"Secret-Name", "string", ".spec.credentials.secretRef.name"⟩,
    ageColumn]
  spec := .object (about "Credentials used to talk to the DigitalOcean API") [
    ("credentials", true, .object (about "Where the API token is read from") [
      ("source", false, .text
        { description := some "Credentials source; only Secret is supported"
          fallback := some (.str "Secret") }),
      ("secretRef", false, secretRef)])]

/-- The documents of the operator's resources. -/
def all : List String := [cluster.manifest, providerConfig.manifest]

/-- The documents one after another. -/
def stream : String := String.join (all.map fun document => "---\n" ++ document)

end ClusterKeeper.Manifest
