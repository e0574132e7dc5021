import ClusterKeeper.Cluster.Basic
import ClusterKeeper.Proofs.Metadata
import ClusterKeeper.ProviderConfig

/-!
# Documents that are read back

What is written for a resource or for a database of the remote API reads as that same value,
whatever it leaves unset or empty: a member that is left out is one that has a default, and the
default is the value that was left out.

* `Parameters.ofJson?_toJson`, `Spec.ofJson?_toJson`, `Connection.ofJson?_toJson`,
  `Database.ofJson?_toJson`: one type each.
* `Cluster.ofJson?_toJson`, `ProviderConfig.ofJson?_toJson`: only metadata may be read
  differently.
* `reading_undoes_writing`: reading undoes writing.
-/

namespace ClusterKeeper

/-- The parameters are read back. -/
theorem Parameters.ofJson?_toJson (p : Parameters) : ofJson? p.toJson = some p := by
  unfold ofJson? toJson
  refine Json.bind_record?_fields [] rfl (by decide) fun written hl => ?_
  have text {k : String} {v : Option String} (hk : written.lookup k = v.map .str) :
      (Json.slotOf written k).optional Json.text? = some v :=
    Json.optional_slotOf Json.text?_str rfl hk
  have hnodes := Json.required_slotOf Observation.int32?_int32Json (hl "numNodes")
  have hsize := Json.required_slotOf Json.text?_str (hl "size")
  have hregion := Json.required_slotOf Json.text?_str (hl "region")
  have htags := Json.defaultList_slotOf Json.text?_str (hl "tags")
  rw [text (hl "engine"), text (hl "version"), hnodes, hsize, hregion,
    text (hl "privateNetworkUUID"), htags]
  rfl

theorem ProviderConfigReference.ofJson?_toJson (p : ProviderConfigReference) :
    ofJson? p.toJson = some p := by
  unfold ofJson? toJson
  refine Json.bind_record?_fields [] rfl (by decide) fun written hl => ?_
  rw [Json.required_slotOf Json.text?_str (hl "name")]
  rfl

theorem SecretReference.ofJson?_toJson (s : SecretReference) : ofJson? s.toJson = some s := by
  unfold ofJson? toJson
  refine Json.bind_record?_fields [] rfl (by decide) fun written hl => ?_
  rw [Json.required_slotOf Json.text?_str (hl "name"),
    Json.required_slotOf Json.text?_str (hl "namespace")]
  rfl

theorem DeletionPolicy.ofJson?_toJson (p : DeletionPolicy) : ofJson? p.toJson = some p := by
  cases p with
  | delete => rfl
  | orphan => rfl

/-- The specification is read back. -/
theorem Spec.ofJson?_toJson (s : Spec) : ofJson? s.toJson = some s := by
  unfold ofJson? toJson
  refine Json.bind_record?_fields [] rfl (by decide) fun written hl => ?_
  have hparameters := Json.required_slotOf Parameters.ofJson?_toJson (hl "forProvider")
  have hconfig := Json.default_slotOf ProviderConfigReference.ofJson?_toJson {}
    (hl "providerConfigRef")
  have hsecret := Json.optional_slotOf SecretReference.ofJson?_toJson rfl
    (hl "writeConnectionSecretToReference")
  have hpolicy := Json.default_slotOf DeletionPolicy.ofJson?_toJson .delete (hl "deletionPolicy")
  rw [hparameters, hconfig, hsecret, hpolicy]
  rfl

/-- **A cluster is read as it was written**, but for what is lost of its metadata. -/
theorem Cluster.ofJson?_toJson (c : Cluster) :
    ofJson? c.toJson =
      (Metadata.ofJson? c.metadata.toJson).map fun m => { c with metadata := m } := by
  unfold ofJson? toJson
  refine Json.bind_record?_fields ["apiVersion", "kind"] rfl (by decide) fun written hl => ?_
  have hspec := Json.required_slotOf Spec.ofJson?_toJson (hl "spec")
  have hstatus := Json.optional_slotOf Status.ofJson?_toJson rfl (hl "status")
  rw [Json.required_of_lookup (hl "metadata"), hspec, hstatus]
  cases Metadata.ofJson? c.metadata.toJson <;> rfl

/-- How to reach a database is read back. -/
theorem Connection.ofJson?_toJson (c : Connection) : ofJson? c.toJson = some c := by
  unfold ofJson? toJson
  refine Json.bind_record?_fields [] rfl (by decide) fun written hl => ?_
  have text {k s : String} (hk : written.lookup k = some (.str s)) :
      (Json.slotOf written k).default "" Json.text? = some s :=
    Json.default_slotOf Json.text?_str "" hk
  have hport := Json.default_slotOf Observation.int32?_int32Json 0 (hl "port")
  have hssl := Json.default_slotOf Json.flag?_bool false (hl "ssl")
  rw [text (hl "uri"), text (hl "database"), text (hl "host"), hport, text (hl "user"),
    text (hl "password"), hssl]
  rfl

/-- A database is read back. -/
theorem Database.ofJson?_toJson (d : Database) : ofJson? d.toJson = some d := by
  unfold ofJson? toJson
  refine Json.bind_record?_fields [] rfl (by decide) fun written hl => ?_
  have text {k s : String} (hk : written.lookup k = some (.str s)) :
      (Json.slotOf written k).default "" Json.text? = some s :=
    Json.default_slotOf Json.text?_str "" hk
  have connection {k : String} {v : Option Connection}
      (hk : written.lookup k = some (.ofOption Connection.toJson v)) :
      (Json.slotOf written k).optionalDefault Connection.ofJson? = some v :=
    Json.optionalDefault_slotOf Connection.ofJson?_toJson rfl hk
  have hid := Json.required_slotOf Json.text?_str (hl "id")
  have hnodes := Json.default_slotOf Observation.int32?_int32Json 0 (hl "num_nodes")
  have hcreated := Json.optionalDefault_slotOf Instant.ofJson?_toJson rfl (hl "created_at")
  have htags := Json.default_slotOf (Json.listOf?_list Json.text?_str) [] (hl "tags")
  rw [hid, text (hl "name"), text (hl "engine"), text (hl "version"), connection (hl "connection"),
    connection (hl "private_connection"), hnodes, text (hl "size"), text (hl "region"),
    text (hl "status"), hcreated, text (hl "private_network_uuid"), htags]
  rfl

theorem SecretKeySelector.ofJson?_toJson (s : SecretKeySelector) : ofJson? s.toJson = some s := by
  unfold ofJson? toJson
  refine Json.bind_record?_fields [] rfl (by decide) fun written hl => ?_
  have hkey := Json.default_slotOf Json.text?_str "token" (hl "key")
  rw [Json.required_slotOf Json.text?_str (hl "namespace"),
    Json.required_slotOf Json.text?_str (hl "name"), hkey]
  rfl

theorem ProviderCredentials.ofJson?_toJson (c : ProviderCredentials) :
    ofJson? c.toJson = some c := by
  unfold ofJson? toJson
  refine Json.bind_record?_fields [] rfl (by decide) fun written hl => ?_
  have hsource := Json.default_slotOf Json.text?_str secretSource (hl "source")
  have hsecret := Json.optional_slotOf SecretKeySelector.ofJson?_toJson rfl (hl "secretRef")
  rw [hsource, hsecret]
  rfl

namespace ProviderConfig

theorem specOfJson?_fields (c : ProviderCredentials) :
    specOfJson? (.fields [("credentials", some c.toJson)]) = some c := by
  unfold specOfJson?
  refine Json.bind_record?_fields [] rfl (by decide) fun written hl => ?_
  exact Json.required_slotOf ProviderCredentials.ofJson?_toJson (hl "credentials")

/-- **A provider configuration is read as it was written**, but for what is lost of its
metadata. -/
theorem ofJson?_toJson (p : ProviderConfig) :
    ofJson? p.toJson =
      (Metadata.ofJson? p.metadata.toJson).map fun m => { p with metadata := m } := by
  unfold ofJson? toJson
  refine Json.bind_record?_fields ["apiVersion", "kind"] rfl (by decide) fun written hl => ?_
  rw [Json.required_of_lookup (hl "metadata"), Json.required_of_lookup (hl "spec"),
    specOfJson?_fields]
  cases Metadata.ofJson? p.metadata.toJson <;> rfl

end ProviderConfig

/-- A value that is read but for its metadata is read back just if these are lasting. -/
theorem Metadata.map_ofJson?_iff {α : Type} {a : α} {metadata : α → Metadata}
    {replace : Metadata → α} (hget : ∀ m, metadata (replace m) = m)
    (hput : replace (metadata a) = a) :
    (ofJson? (metadata a).toJson).map replace = some a ↔ (metadata a).Lasting := by
  rw [← ofJson?_toJson_iff, Option.map_eq_some_iff]
  constructor
  · rintro ⟨m, hm, rfl⟩
    rwa [hget] at hm ⊢
  · intro hm
    exact ⟨_, hm, hput⟩

/-- **Reading undoes writing.** Every value of the types below is read back from what is written
for it, with members that are unset, empty lists and empty texts; a cluster and a provider
configuration just if their metadata are lasting. -/
theorem reading_undoes_writing :
    (∀ c : Cluster, Cluster.ofJson? c.toJson = some c ↔ c.metadata.Lasting) ∧
    (∀ p : ProviderConfig, ProviderConfig.ofJson? p.toJson = some p ↔ p.metadata.Lasting) ∧
    (∀ d : Database, Database.ofJson? d.toJson = some d) ∧
    (∀ c : Connection, Connection.ofJson? c.toJson = some c) ∧
    (∀ s : Spec, Spec.ofJson? s.toJson = some s) ∧
    (∀ p : Parameters, Parameters.ofJson? p.toJson = some p) ∧
    (∀ o : Observation, Observation.ofJson? o.toJson = some o) ∧
    (∀ s : Status, Status.ofJson? s.toJson = some s) ∧
    (∀ c : Condition, Condition.ofJson? c.toJson = some c) := by
  refine ⟨fun c => ?_, fun p => ?_, Database.ofJson?_toJson, Connection.ofJson?_toJson,
    Spec.ofJson?_toJson, Parameters.ofJson?_toJson, Observation.ofJson?_toJson,
    Status.ofJson?_toJson, Condition.ofJson?_toJson⟩
  · rw [Cluster.ofJson?_toJson]
    exact Metadata.map_ofJson?_iff (fun _ => rfl) rfl
  · rw [ProviderConfig.ofJson?_toJson]
    exact Metadata.map_ofJson?_iff (fun _ => rfl) rfl

end ClusterKeeper
