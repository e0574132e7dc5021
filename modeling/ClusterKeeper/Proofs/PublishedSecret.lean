import ClusterKeeper.Cluster.ConnectionSecret
import ClusterKeeper.Proofs.Secret

/-!
# What a connection secret publishes

The details of a database are written down one text after the other, each under a key of its own,
and an empty text is left out. So the secret that publishes them gives what the database says and
nothing else, whichever of its two connections there are.

* `Database.Says`: what a database says under a key.
* `ConnectionDetails.get?_addTexts_iff`: what texts under distinct keys leave behind.
* `ConnectionDetails.get?_ofDatabase_iff`: the details of a database are what it says.
* `Cluster.connectionSecret_publishes`: the secret gives that, also when it is read back.
-/

namespace ClusterKeeper

/-- **What a database says** under a key. -/
inductive Database.Says (db : Database) : String → String → Prop
  | uri {c : Connection} (h : db.connection = some c) : Says db "uri" c.uri
  | endpoint {c : Connection} (h : db.connection = some c) : Says db "endpoint" c.host
  | username {c : Connection} (h : db.connection = some c) : Says db "username" c.user
  | password {c : Connection} (h : db.connection = some c) : Says db "password" c.password
  | database {c : Connection} (h : db.connection = some c) : Says db "database" c.database
  | port {c : Connection} (h : db.connection = some c) (hp : c.port ≠ 0) :
      Says db "port" (toString c.port.toInt)
  | privateUri {c : Connection} (h : db.privateConnection = some c) : Says db "privateUri" c.uri
  | privateEndpoint {c : Connection} (h : db.privateConnection = some c) :
      Says db "privateEndpoint" c.host

namespace ConnectionDetails

/-- What the public connection says, a port of 0 being no text. -/
def publicTexts (c : Connection) : List (String × String) := [
  ("uri", c.uri), ("endpoint", c.host), ("username", c.user), ("password", c.password),
  ("database", c.database), ("port", if c.port = 0 then "" else toString c.port.toInt)]

/-- What the private connection says. -/
def privateTexts (c : Connection) : List (String × String) := [
  ("privateUri", c.uri), ("privateEndpoint", c.host)]

/-- What a database says, in the order in which it is written down. -/
def texts (db : Database) : List (String × String) :=
  (db.connection.elim [] publicTexts) ++ db.privateConnection.elim [] privateTexts

/-- Write texts down one after the other. -/
def addTexts (es : List (String × String)) (d : ConnectionDetails) : ConnectionDetails :=
  es.foldl (fun d e => d.addText e.1 e.2) d

variable {db : Database} {d : ConnectionDetails} {key text : String} {bytes : Bytes}

theorem toString_ne_empty (n : Int) : toString n ≠ "" := by
  intro h
  obtain ⟨c, cs, hcs, -⟩ := Json.toString_int_opens n
  rw [h] at hcs
  cases hcs

theorem says_iff_mem_texts (ht : text ≠ "") : db.Says key text ↔ (key, text) ∈ texts db := by
  unfold texts
  rw [List.mem_append]
  constructor
  · intro h
    cases h with
    | uri h | endpoint h | username h | password h | database h =>
      rw [h]
      exact .inl (by simp [publicTexts])
    | port h hp =>
      rw [h]
      exact .inl (by simp [publicTexts, hp])
    | privateUri h | privateEndpoint h =>
      rw [h]
      exact .inr (by simp [privateTexts])
  · rintro (h | h)
    · cases hc : db.connection with
      | none =>
        rw [hc] at h
        cases h
      | some c =>
        rw [hc] at h
        simp only [Option.elim_some, publicTexts, List.mem_cons, Prod.mk.injEq] at h
        rcases h with ⟨rfl, rfl⟩ | ⟨rfl, rfl⟩ | ⟨rfl, rfl⟩ | ⟨rfl, rfl⟩ | ⟨rfl, rfl⟩ | ⟨rfl, h⟩ | h
        · exact .uri hc
        · exact .endpoint hc
        · exact .username hc
        · exact .password hc
        · exact .database hc
        · by_cases hp : c.port = 0
          · rw [if_pos hp] at h
            exact absurd h ht
          · rw [if_neg hp] at h
            rw [h]
            exact .port hc hp
        · cases h
    · cases hc : db.privateConnection with
      | none =>
        rw [hc] at h
        cases h
      | some c =>
        rw [hc] at h
        simp only [Option.elim_some, privateTexts, List.mem_cons, Prod.mk.injEq] at h
        rcases h with ⟨rfl, rfl⟩ | ⟨rfl, rfl⟩ | h
        · exact .privateUri hc
        · exact .privateEndpoint hc
        · cases h

theorem ofDatabase_eq (db : Database) : ofDatabase db = addTexts (texts db) .empty := by
  have hpublic (c : Connection) : addPublic c .empty = addTexts (publicTexts c) .empty := by
    unfold addTexts addPublic publicTexts addPort
    simp only [List.foldl_cons, List.foldl_nil]
    -- a port is left out for being 0, a text for being empty
    by_cases hp : c.port = 0
    · rw [if_pos hp, if_pos hp]
      rfl
    · rw [if_neg hp, if_neg hp]
      conv_rhs => rw [addText, if_neg (toString_ne_empty _)]
  unfold ofDatabase texts
  cases db.connection with
  | none => cases db.privateConnection <;> rfl
  | some c =>
    simp only
    rw [hpublic]
    cases db.privateConnection with
    | none => rw [Option.elim_none, List.append_nil]; rfl
    | some p =>
      show addPrivate p (addTexts (publicTexts c) .empty) =
        addTexts (publicTexts c ++ privateTexts p) .empty
      unfold addTexts
      rw [List.foldl_append]
      rfl

/-- No two texts have one key. -/
theorem nodup_texts (db : Database) : ((texts db).map (·.1)).Nodup := by
  have hall : (["uri", "endpoint", "username", "password", "database", "port"] ++
      ["privateUri", "privateEndpoint"]).Nodup := by decide
  -- a connection that is missing only takes keys away
  refine hall.sublist ?_
  unfold texts
  rw [List.map_append]
  refine List.Sublist.append ?_ ?_
  · cases db.connection with
    | none => exact List.nil_sublist _
    | some c => exact List.Sublist.refl _
  · cases db.privateConnection with
    | none => exact List.nil_sublist _
    | some c => exact List.Sublist.refl _

/-- Writing one text down. -/
theorem get?_addText_iff (hd : d.get? key = none) {k : String} :
    (d.addText key text).get? k = some bytes ↔
      (k = key ∧ text ≠ "" ∧ bytes = Utf8.encode text) ∨ d.get? k = some bytes := by
  unfold addText
  by_cases ht : text = ""
  · rw [if_pos ht]
    simp [ht]
  rw [if_neg ht]
  by_cases hk : k = key
  · rw [hk, Dict.get?_insert_self, hd]
    simp [ht, eq_comm]
  · rw [Dict.get?_insert_of_ne d _ hk]
    simp [hk]

/-- **What texts leave behind** that are written down one after the other. -/
theorem get?_addTexts_iff {es : List (String × String)} (hn : (es.map (·.1)).Nodup)
    (hd : ∀ e ∈ es, d.get? e.1 = none) :
    (addTexts es d).get? key = some bytes ↔
      (∃ text, (key, text) ∈ es ∧ text ≠ "" ∧ bytes = Utf8.encode text) ∨
        d.get? key = some bytes := by
  induction es generalizing d with
  | nil => simp [addTexts]
  | cons e es ih =>
    rw [List.map_cons, List.nodup_cons] at hn
    rw [List.forall_mem_cons] at hd
    -- the text that is written first has none of the keys to come
    have hnext : ∀ e' ∈ es, (d.addText e.1 e.2).get? e'.1 = none := by
      intro e' he'
      refine Option.eq_none_iff_forall_ne_some.2 fun bytes hget => ?_
      rcases (get?_addText_iff hd.1).1 hget with ⟨hkey, -⟩ | hget
      · exact hn.1 (hkey ▸ List.mem_map_of_mem he')
      · rw [hd.2 e' he'] at hget
        cases hget
    show (addTexts es (d.addText e.1 e.2)).get? key = some bytes ↔ _
    rw [ih hn.2 hnext, get?_addText_iff hd.1]
    constructor
    · rintro (⟨text, hm, ht, hb⟩ | ⟨hk, ht, hb⟩ | h)
      · exact .inl ⟨text, List.mem_cons_of_mem _ hm, ht, hb⟩
      · exact .inl ⟨e.2, hk ▸ List.mem_cons_self, ht, hb⟩
      · exact .inr h
    · rintro (⟨text, hm, ht, hb⟩ | h)
      · rcases List.mem_cons.1 hm with he | hm
        · rw [← he]
          exact .inr (.inl ⟨rfl, ht, hb⟩)
        · exact .inl ⟨text, hm, ht, hb⟩
      · exact .inr (.inr h)

/-- **The details of a database** are what it says, without what is empty. -/
theorem get?_ofDatabase_iff (db : Database) : (ofDatabase db).get? key = some bytes ↔
    ∃ text, db.Says key text ∧ text ≠ "" ∧ bytes = Utf8.encode text := by
  have hget : (ofDatabase db).get? key = some bytes ↔
      ∃ text, (key, text) ∈ texts db ∧ text ≠ "" ∧ bytes = Utf8.encode text := by
    rw [ofDatabase_eq, get?_addTexts_iff (nodup_texts db) fun _ _ => Dict.get?_empty _]
    simp
  rw [hget]
  refine exists_congr fun text => ?_
  constructor
  · rintro ⟨hm, ht, hb⟩
    exact ⟨(says_iff_mem_texts ht).2 hm, ht, hb⟩
  · rintro ⟨hs, ht, hb⟩
    exact ⟨(says_iff_mem_texts ht).1 hs, ht, hb⟩

end ConnectionDetails

/-! ## The secret -/

namespace Cluster

variable (c : Cluster) (reference : SecretReference) (db : Database)

variable {key text : String}

/-- **The texts of a secret** that publishes a database are what the database says. -/
theorem text_connectionSecret_eq_ok_iff :
    (c.connectionSecret reference (.ofDatabase db)).text key = .ok text ↔
      db.Says key text ∧ text ≠ "" := by
  have hdata : (c.connectionSecret reference (.ofDatabase db)).data =
      some (ConnectionDetails.ofDatabase db) := rfl
  rw [Secret.text_eq_ok_iff, hdata]
  simp only [Option.some.injEq, exists_eq_left']
  rw [ConnectionDetails.get?_ofDatabase_iff]
  constructor
  · rintro ⟨said, hs, ht, hb⟩
    rw [Utf8.encode_injective hb]
    exact ⟨hs, ht⟩
  · rintro ⟨hs, ht⟩
    exact ⟨text, hs, ht, rfl⟩

/-- Where the database says nothing, the key is missing. -/
theorem text_connectionSecret_eq_missingKey_iff :
    (c.connectionSecret reference (.ofDatabase db)).text key = .error (.missingKey key) ↔
      ¬ ∃ text, db.Says key text ∧ text ≠ "" := by
  have hdata : (c.connectionSecret reference (.ofDatabase db)).data =
      some (ConnectionDetails.ofDatabase db) := rfl
  rw [Secret.text_eq_missingKey_iff, hdata]
  simp only [Option.some.injEq, exists_eq_left']
  rw [Option.eq_none_iff_forall_ne_some]
  constructor
  · rintro h ⟨text, hs, ht⟩
    have hget := (ConnectionDetails.get?_ofDatabase_iff db).2 ⟨text, hs, ht, rfl⟩
    exact h _ hget
  · rintro h bytes hget
    obtain ⟨text, hs, ht, -⟩ := (ConnectionDetails.get?_ofDatabase_iff db).1 hget
    exact h ⟨text, hs, ht⟩

/-- The metadata of a connection secret keep neither times nor managed fields. -/
theorem lasting_connectionSecret (details : ConnectionDetails) :
    (c.connectionSecret reference details).metadata.Lasting where
  creation := by rintro t ⟨⟩
  deletion := by rintro t ⟨⟩
  managed := by rintro fs ⟨⟩

/-- **What is published can be read back, and nothing else is.** The secret of a database comes
back from its JSON text as it was. It gives a text just under the keys where the database says one,
and misses every other key. It stands where the reference says, and the cluster alone owns it. -/
theorem connectionSecret_publishes :
    let written := c.connectionSecret reference (.ofDatabase db)
    (Json.ofText? written.toJson.render).bind Secret.ofJson? = some written ∧
    (∀ key text, written.text key = .ok text ↔ db.Says key text ∧ text ≠ "") ∧
    (∀ key, written.text key = .error (.missingKey key) ↔
      ¬ ∃ text, db.Says key text ∧ text ≠ "") ∧
    written.metadata.name = some reference.name ∧ written.metadata.ns = some reference.ns ∧
    written.metadata.ownerReferences = some [{
      apiVersion := apiVersion
      blockOwnerDeletion := some true
      controller := some true
      kind := kind
      name := c.anyName
      uid := c.metadata.uid.getD "" }] := by
  intro written
  have hmanaged : written.metadata.managedFields = none := rfl
  have hback : (Json.ofText? written.toJson.render).bind Secret.ofJson? = some written := by
    refine Secret.ofText?_render (lasting_connectionSecret c reference _) ?_
    rw [hmanaged]
    exact nofun
  exact ⟨hback, fun key text => text_connectionSecret_eq_ok_iff c reference db,
    fun key => text_connectionSecret_eq_missingKey_iff c reference db, rfl, rfl, rfl⟩

end Cluster

end ClusterKeeper
