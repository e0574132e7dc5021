import ClusterKeeper.Database.Api
import ClusterKeeper.Cluster.Parameters
import ClusterKeeper.Proofs.Run
import ClusterKeeper.Proofs.StoredStatus

/-!
# The body that asks for a database

A request for a database is written without the members that are empty, and parameters that are
unset are empty. So nothing is lost in writing, but a reader that requires every member does not
get it back.

* `Parameters.Member`: the members that a name and parameters call for.
* `Json.mem_present_iff`, `Json.textUnlessEmpty_eq_some_iff`: what is written of members that may be
  empty.
* `CreateRequest.mem_createRequest_iff`: the members that are written.
* `CreateRequest.eq_of_get?`: requests that differ are written differently.
* `CreateRequest.ofJson?_toJson`: what is read of a request that was written.
* `body_tells_request`: all of it.
-/

namespace ClusterKeeper

namespace Json

variable {ms : List (String × Option Json)} {k name : String} {j : Json} {s t : String}

/-- **The members of what is written** are those that are set. -/
theorem mem_present_iff : (k, j) ∈ present ms ↔ (k, some j) ∈ ms := by
  induction ms with
  | nil => simp [present]
  | cons m ms ih =>
    obtain ⟨name, value?⟩ := m
    cases value? with
    | none => simp [ih]
    | some value => simp [ih]

theorem textUnlessEmpty_eq_some_iff : textUnlessEmpty s = some j ↔ s ≠ "" ∧ j = .str s := by
  unfold textUnlessEmpty
  by_cases hs : s = ""
  · simp [hs]
  · simp [hs, eq_comm]

theorem listUnlessEmpty_eq_some_iff {α : Type} {write : α → Json} {xs : List α} :
    listUnlessEmpty write xs = some j ↔ xs ≠ [] ∧ j = .arr (xs.map write) := by
  cases xs with
  | nil => simp [listUnlessEmpty]
  | cons x xs => simp [listUnlessEmpty, list, eq_comm]

/-- Texts that differ are written differently, also if one is left out. -/
theorem textUnlessEmpty_inj : textUnlessEmpty s = textUnlessEmpty t ↔ s = t := by
  unfold textUnlessEmpty
  by_cases hs : s = "" <;> by_cases ht : t = "" <;> simp_all [eq_comm]

theorem listUnlessEmpty_inj {α : Type} {write : α → Json} (hw : Function.Injective write)
    {xs ys : List α} : listUnlessEmpty write xs = listUnlessEmpty write ys ↔ xs = ys := by
  have hmap : xs.map write = ys.map write ↔ xs = ys := List.map_inj_right fun _ _ h => hw h
  cases xs <;> cases ys <;> simp_all [listUnlessEmpty, list]

section Slots

variable {written : List (String × Json)}

/-- A text that is left out if it is empty is not read back then. -/
theorem required_textUnlessEmpty (h : written.lookup name = textUnlessEmpty s) :
    (slotOf written name).required text? = if s = "" then none else some s := by
  unfold slotOf
  rw [h, textUnlessEmpty]
  by_cases hs : s = ""
  · rw [if_pos hs, if_pos hs]
    rfl
  · rw [if_neg hs, if_neg hs]
    rfl

theorem required_listUnlessEmpty {α : Type} {write : α → Json} {read : Json → Option α}
    (hread : ∀ a, read (write a) = some a) {xs : List α}
    (h : written.lookup name = listUnlessEmpty write xs) :
    (slotOf written name).required (listOf? read) = if xs = [] then none else some xs := by
  unfold slotOf
  rw [h]
  cases xs with
  | nil => rfl
  | cons x xs => exact listOf?_list hread (x :: xs)

end Slots

end Json

/-- **A member that asks for a database** of the given name: five that are always there, and of the
other parameters those that are set and not empty. -/
inductive Parameters.Member (name : String) (p : Parameters) : String → Json → Prop
  | name : Member name p "name" (.str name)
  | engine : Member name p "engine" (.str (p.engine.getD ""))
  | size : Member name p "size" (.str p.size)
  | region : Member name p "region" (.str p.region)
  | nodes : Member name p "num_nodes" (.int p.numNodes.toInt)
  | version {version : String} (h : p.version = some version) (hset : version ≠ "") :
      Member name p "version" (.str version)
  | network {network : String} (h : p.privateNetworkUuid = some network) (hset : network ≠ "") :
      Member name p "private_network_uuid" (.str network)
  | tags (hset : p.tags ≠ []) : Member name p "tags" (.arr (p.tags.map .str))

namespace CreateRequest

/-- The members, also those that are not set. -/
def members (c : CreateRequest) : List (String × Option Json) := [
  ("name", some (.str c.name)),
  ("engine", some (.str c.engine)),
  ("version", Json.textUnlessEmpty c.version),
  ("size", some (.str c.size)),
  ("region", some (.str c.region)),
  ("num_nodes", some (.int c.numNodes.toInt)),
  ("private_network_uuid", Json.textUnlessEmpty c.privateNetworkUuid),
  ("tags", Json.listUnlessEmpty .str c.tags)]

theorem toJson_eq (c : CreateRequest) : c.toJson = .obj (Json.present c.members) := rfl

theorem nodup_members (c : CreateRequest) : (c.members.map (·.1)).Nodup := by
  show ["name", "engine", "version", "size", "region", "num_nodes", "private_network_uuid",
    "tags"].Nodup
  decide

/-- A text that may be unset is written if it is set and not empty. -/
theorem textUnlessEmpty_getD_iff {text : Option String} {j : Json} :
    Json.textUnlessEmpty (text.getD "") = some j ↔ ∃ s, text = some s ∧ s ≠ "" ∧ j = .str s := by
  rw [Json.textUnlessEmpty_eq_some_iff]
  cases text with
  | none => simp
  | some s => simp

/-- **The members that are written** for parameters are those that they call for. -/
theorem mem_createRequest_iff {name k : String} {p : Parameters} {j : Json} :
    (k, j) ∈ Json.present (p.createRequest name).members ↔ p.Member name k j := by
  rw [Json.mem_present_iff]
  unfold members
  -- one case for each of the eight members; only three of them can be missing
  simp only [List.mem_cons, Prod.mk.injEq, List.not_mem_nil, or_false]
  constructor
  · rintro (⟨rfl, h⟩ | ⟨rfl, h⟩ | ⟨rfl, h⟩ | ⟨rfl, h⟩ | ⟨rfl, h⟩ | ⟨rfl, h⟩ | ⟨rfl, h⟩ | ⟨rfl, h⟩)
    · cases h
      exact .name
    · cases h
      exact .engine
    · obtain ⟨version, hv, hset, rfl⟩ := textUnlessEmpty_getD_iff.1 h.symm
      exact .version hv hset
    · cases h
      exact .size
    · cases h
      exact .region
    · cases h
      exact .nodes
    · obtain ⟨network, hn, hset, rfl⟩ := textUnlessEmpty_getD_iff.1 h.symm
      exact .network hn hset
    · obtain ⟨hset, rfl⟩ := Json.listUnlessEmpty_eq_some_iff.1 h.symm
      exact .tags hset
  · intro h
    cases h with
    | name => simp [Parameters.createRequest]
    | engine => simp [Parameters.createRequest]
    | size => simp [Parameters.createRequest]
    | region => simp [Parameters.createRequest]
    | nodes => simp [Parameters.createRequest]
    | @version version hv hset =>
      have hwritten := textUnlessEmpty_getD_iff.2 ⟨version, hv, hset, rfl⟩
      simp [Parameters.createRequest, hwritten]
    | @network network hn hset =>
      have hwritten := textUnlessEmpty_getD_iff.2 ⟨network, hn, hset, rfl⟩
      simp [Parameters.createRequest, hwritten]
    | tags hset =>
      have hwritten : Json.listUnlessEmpty .str p.tags = some (.arr (p.tags.map .str)) :=
        Json.listUnlessEmpty_eq_some_iff.2 ⟨hset, rfl⟩
      simp [Parameters.createRequest, hwritten]

/-- **Requests that differ are written differently**, even as objects whose members have no
order. -/
theorem eq_of_get? {a b : CreateRequest} (h : ∀ k, a.toJson.get? k = b.toJson.get? k) : a = b := by
  have hmember (k : String) : (a.members.lookup k).join = (b.members.lookup k).join := by
    rw [← Json.get?_fields a.nodup_members, ← Json.get?_fields b.nodup_members]
    exact h k
  have hname : some (Json.str a.name) = some (.str b.name) := hmember "name"
  have hengine : some (Json.str a.engine) = some (.str b.engine) := hmember "engine"
  have hversion := Json.textUnlessEmpty_inj.1 (hmember "version")
  have hsize : some (Json.str a.size) = some (.str b.size) := hmember "size"
  have hregion : some (Json.str a.region) = some (.str b.region) := hmember "region"
  have hnodes : some (Json.int a.numNodes.toInt) = some (.int b.numNodes.toInt) :=
    hmember "num_nodes"
  have hnetwork := Json.textUnlessEmpty_inj.1 (hmember "private_network_uuid")
  have htags := (Json.listUnlessEmpty_inj fun _ _ => Json.str.inj).1 (hmember "tags")
  have hnodes' := Int32.toInt_inj.1 (Json.int.inj (Option.some.inj hnodes))
  cases a
  cases b
  simp_all

/-- **A request that was written is read back** if nothing was left out, and otherwise nothing is
read. -/
theorem ofJson?_toJson (c : CreateRequest) :
    ofJson? c.toJson =
      if c.version ≠ "" ∧ c.privateNetworkUuid ≠ "" ∧ c.tags ≠ [] then some c else none := by
  unfold ofJson? toJson
  refine Json.bind_record?_fields [] rfl (by decide) fun written hl => ?_
  have text {k s : String} (hk : written.lookup k = some (.str s)) :
      (Json.slotOf written k).required Json.text? = some s :=
    Json.required_slotOf Json.text?_str hk
  have hnodes := Json.required_slotOf Observation.int32?_int32Json (hl "num_nodes")
  -- every member must be there, so the first that was left out ends the reading
  rw [text (hl "name"), text (hl "engine"), Json.required_textUnlessEmpty (hl "version"),
    text (hl "size"), text (hl "region"), hnodes,
    Json.required_textUnlessEmpty (hl "private_network_uuid"),
    Json.required_listUnlessEmpty Json.text?_str (hl "tags")]
  by_cases hv : c.version = ""
  · simp [hv]
  · by_cases hn : c.privateNetworkUuid = ""
    · simp [hv, hn]
    · by_cases ht : c.tags = []
      · simp [hv, hn, ht]
      · simp [hv, hn, ht]

end CreateRequest

/-- The body of a request is the one that was asked for. -/
theorem body_of_request {session : Session} {asked : CreateRequest} {r : DatabaseRequest}
    (h : session.request (.create asked) = .ok r) : r.body = some asked.toJson := by
  replace h : session.requestAt .post "databases" (some asked.toJson) = .ok r := h
  unfold Session.requestAt at h
  repeat' split at h
  all_goals cases h
  rfl

/-- **The body tells the request.** For any name and parameters it has a member for each that they
call for, once, and no other. Requests that differ have bodies that differ in some member. And a
request is read back from its body exactly if nothing was left out: if the version, the private
network and the tags are all there. -/
theorem body_tells_request :
    (∀ (name : String) (p : Parameters), ∃ ms, (p.createRequest name).toJson = .obj ms ∧
      (ms.map Prod.fst).Nodup ∧ (∀ k j, (k, j) ∈ ms ↔ p.Member name k j) ∧
      ∀ (session : Session) (r : DatabaseRequest),
        session.request (.create (p.createRequest name)) = .ok r → r.body = some (.obj ms)) ∧
    (∀ a b : CreateRequest, (∀ k, a.toJson.get? k = b.toJson.get? k) → a = b) ∧
    ∀ c : CreateRequest,
      (CreateRequest.ofJson? c.toJson = some c ↔
        c.version ≠ "" ∧ c.privateNetworkUuid ≠ "" ∧ c.tags ≠ []) ∧
      ((CreateRequest.ofJson? c.toJson).isSome = true ↔
        c.version ≠ "" ∧ c.privateNetworkUuid ≠ "" ∧ c.tags ≠ []) := by
  refine ⟨fun name p => ?_, fun a b => CreateRequest.eq_of_get?, fun c => ?_⟩
  · exact ⟨Json.present (p.createRequest name).members, rfl,
      Json.nodup_present (p.createRequest name).nodup_members,
      fun k j => CreateRequest.mem_createRequest_iff, fun session r => body_of_request⟩
  · rw [CreateRequest.ofJson?_toJson]
    split
    · rename_i hall
      exact ⟨iff_of_true rfl hall, iff_of_true rfl hall⟩
    · rename_i hnot
      exact ⟨iff_of_false nofun hnot, iff_of_false nofun hnot⟩

namespace CreateRequest.Sample

/-- Parameters without a private network, and with an empty version. -/
def versionless : Parameters :=
  { engine := some "pg", version := some "", numNodes := 1, size := "s", region := "r",
    tags := ["t"] }

/-- A session with the remote API. -/
def session : Session := ⟨"http://d", "t"⟩

/-- Whatever they ask for, a version is not. -/
theorem ne_version_of_member {k : String} {j : Json} (h : versionless.Member "n" k j) :
    k ≠ "version" := by
  cases h with
  | version hv hset => exact absurd (Option.some.inj hv).symm hset
  | network hn hset => cases hn
  | _ => decide

end CreateRequest.Sample

open CreateRequest.Sample in
/-- A request without a version is sent without one, and is not read back. -/
theorem body_tells_request_versionless : ∃ r ms,
    session.request (.create (versionless.createRequest "n")) = .ok r ∧ r.body = some (.obj ms) ∧
      ("tags", .arr [.str "t"]) ∈ ms ∧ (∀ j, ("version", j) ∉ ms) ∧
      (CreateRequest.ofJson? (versionless.createRequest "n").toJson).isSome = false := by
  obtain ⟨ms, -, -, hmember, hbody⟩ := body_tells_request.1 "n" versionless
  have hsent : (session.request (.create (versionless.createRequest "n"))).isOk = true := by
    decide +kernel
  obtain ⟨r, hr⟩ := exists_of_isOk hsent
  have hread := (body_tells_request.2.2 (versionless.createRequest "n")).2
  exact ⟨r, ms, hr, hbody session r hr, (hmember _ _).2 (.tags (by decide)),
    fun j hj => ne_version_of_member ((hmember _ _).1 hj) rfl,
    Bool.eq_false_iff.2 fun hsome => (hread.1 hsome).1 rfl⟩

end ClusterKeeper
