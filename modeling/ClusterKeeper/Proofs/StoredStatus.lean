import ClusterKeeper.Proofs.Instant
import ClusterKeeper.Proofs.MergePatch
import ClusterKeeper.Proofs.Requests

/-!
# The stored status

The status is sent as a merge patch that leaves out what is unset, and the store keeps a member
that the patch does not name. What is stored is therefore the new status laid over the old one.

* `Status.overlay`: the new status, where it is set, and else the old one.
* `Status.ofJson?_merge`: what is read of the patched status.
* `Kube.stored_eq_iff`: the new status is what is stored just if it sets all that the old one
  set.
-/

namespace ClusterKeeper

theorem Json.listUnlessEmpty_or {α : Type} (write : α → Json) (new old : List α) :
    listUnlessEmpty write (if new.isEmpty then old else new) =
      (listUnlessEmpty write new).or (listUnlessEmpty write old) := by
  cases new <;> rfl

theorem Json.text?_str (s : String) : text? (.str s) = some s := rfl

theorem Instant.ofJson?_toJson (t : Instant) : ofJson? t.toJson = some t := by
  unfold ofJson? toJson
  rw [Json.text?_str, Option.bind_some, ofText?_text]

theorem Json.whole_of_map {α : Type} {write : α → Json} (hw : ∀ a, Whole (write a))
    {v : Option α} {j : Json} (h : v.map write = some j) : Whole j := by
  rw [Option.map_eq_some_iff] at h
  obtain ⟨a, -, rfl⟩ := h
  exact hw a

theorem Json.whole_of_listUnlessEmpty {α : Type} {write : α → Json} {xs : List α} {j : Json}
    (h : listUnlessEmpty write xs = some j) : Whole j := by
  unfold listUnlessEmpty at h
  split at h
  · cases h
  · cases h
    trivial

namespace Observation

variable {o : Observation}

theorem int32?_int32Json (n : Int32) : (int32Json n).int32? = some n := by
  have hl := Int32.le_toInt n
  have hu := Int32.toInt_lt n
  unfold int32Json Json.int32?
  simp only
  rw [if_pos ⟨hl, hu⟩, Int32.ofInt_toInt]

/-- What each member holds. -/
def members : List (String × (Observation → Option Json)) := [
  ("id", fun o => o.id.map .str),
  ("name", fun o => o.name.map .str),
  ("engine", fun o => o.engine.map .str),
  ("version", fun o => o.version.map .str),
  ("numNodes", fun o => o.numNodes.map int32Json),
  ("size", fun o => o.size.map .str),
  ("region", fun o => o.region.map .str),
  ("status", fun o => o.status.map .str),
  ("createdAt", fun o => o.createdAt.map Instant.toJson),
  ("privateNetworkUUID", fun o => o.privateNetworkUuid.map .str),
  ("tags", fun o => Json.listUnlessEmpty .str o.tags)]

/-- The members of an observation that are set. -/
def written (o : Observation) : List (String × Json) :=
  Json.present (members.map fun m => (m.1, m.2 o))

theorem toJson_eq (o : Observation) : o.toJson = .obj o.written := rfl

theorem nodup_names (o : Observation) :
    ((members.map fun m => (m.1, m.2 o)).map (·.1)).Nodup := by
  rw [List.map_map]
  show (members.map (·.1)).Nodup
  decide

theorem nodup_written (o : Observation) : (o.written.map (·.1)).Nodup :=
  Json.nodup_present o.nodup_names

/-- A member of what is written. -/
theorem lookup_written (o : Observation) (k : String) :
    o.written.lookup k = (members.lookup k).bind (· o) := by
  unfold written
  have hm := Json.lookup_map (fun f : Observation → Option Json => f o) members k
  rw [Json.lookup_present o.nodup_names, hm]
  cases members.lookup k <;> rfl

/-- **An observation is read of its members**, however they are ordered. -/
theorem ofJson?_of_lookup {ms : List (String × Json)} (hn : (ms.map (·.1)).Nodup)
    (h : ∀ k, ms.lookup k = o.written.lookup k) : ofJson? (.obj ms) = some o := by
  have hl (k : String) : ms.lookup k = (members.lookup k).bind (· o) := by
    rw [h, lookup_written]
  have text {k : String} {v : Option String} (hk : ms.lookup k = v.map .str) :
      (Json.slotOf ms k).optional Json.text? = some v := Json.optional_slotOf Json.text?_str rfl hk
  have hnodes := Json.optional_slotOf int32?_int32Json rfl (hl "numNodes")
  have hcreated := Json.optional_slotOf Instant.ofJson?_toJson rfl (hl "createdAt")
  have htags := Json.defaultList_slotOf Json.text?_str (hl "tags")
  unfold ofJson?
  rw [Json.record?_obj hn]
  simp only [Option.bind_eq_bind, Option.bind_some]
  rw [text (hl "id"), text (hl "name"), text (hl "engine"), text (hl "version"), hnodes,
    text (hl "size"), text (hl "region"), text (hl "status"), hcreated,
    text (hl "privateNetworkUUID"), htags]
  rfl

/-- The new observation, and where it is unset the old one. -/
def overlay (old new : Observation) : Observation where
  id := new.id.or old.id
  name := new.name.or old.name
  engine := new.engine.or old.engine
  version := new.version.or old.version
  numNodes := new.numNodes.or old.numNodes
  size := new.size.or old.size
  region := new.region.or old.region
  status := new.status.or old.status
  createdAt := new.createdAt.or old.createdAt
  privateNetworkUuid := new.privateNetworkUuid.or old.privateNetworkUuid
  tags := if new.tags.isEmpty then old.tags else new.tags

/-- No member is an object. -/
theorem whole_of_mem {m : String × (Observation → Option Json)} (hm : m ∈ members)
    (o : Observation) {j : Json} (h : m.2 o = some j) : j.Whole := by
  have text (s : String) : (Json.str s).Whole := trivial
  have nodes (n : Int32) : (int32Json n).Whole := trivial
  have time (t : Instant) : t.toJson.Whole := trivial
  simp only [members, List.mem_cons, List.not_mem_nil, or_false] at hm
  rcases hm with rfl | rfl | rfl | rfl | rfl | rfl | rfl | rfl | rfl | rfl | rfl
  case inr.inr.inr.inr.inl => exact Json.whole_of_map nodes h
  case inr.inr.inr.inr.inr.inr.inr.inr.inl => exact Json.whole_of_map time h
  case inr.inr.inr.inr.inr.inr.inr.inr.inr.inr => exact Json.whole_of_listUnlessEmpty h
  all_goals exact Json.whole_of_map text h

/-- Each member is the new one, and where that is unset the old one. -/
theorem overlay_of_mem {m : String × (Observation → Option Json)} (hm : m ∈ members)
    (old new : Observation) : m.2 (old.overlay new) = (m.2 new).or (m.2 old) := by
  simp only [members, List.mem_cons, List.not_mem_nil, or_false] at hm
  rcases hm with rfl | rfl | rfl | rfl | rfl | rfl | rfl | rfl | rfl | rfl | rfl
  all_goals first | exact Option.map_or | exact Json.listUnlessEmpty_or _ _ _

theorem lookup_overlay (old new : Observation) (k : String) :
    (old.overlay new).written.lookup k = (new.written.lookup k).or (old.written.lookup k) := by
  rw [lookup_written, lookup_written, lookup_written]
  cases hw : members.lookup k with
  | none => rfl
  | some write => exact overlay_of_mem (Json.mem_of_lookup hw) old new

theorem whole_of_lookup {o : Observation} {k : String} {j : Json}
    (h : o.written.lookup k = some j) : j.Whole := by
  rw [lookup_written, Option.bind_eq_some_iff] at h
  obtain ⟨write, hw, hj⟩ := h
  exact whole_of_mem (Json.mem_of_lookup hw) o hj

/-- **An observation that is merged into another is laid over it.** -/
theorem ofJson?_merge (old new : Observation) :
    ofJson? (old.toJson.merge new.toJson) = some (old.overlay new) := by
  rw [toJson_eq, toJson_eq, Json.merge_obj]
  refine ofJson?_of_lookup (Json.nodup_mergeMembers old.nodup_written new.written) fun k => ?_
  rw [Json.lookup_mergeMembers new.nodup_written,
    Json.mergeMember_of_whole fun j => whole_of_lookup, lookup_overlay]

theorem ofJson?_toJson (o : Observation) : ofJson? o.toJson = some o :=
  ofJson?_of_lookup o.nodup_written fun _ => rfl

/-- An observation is what it has written. -/
theorem eq_of_lookup {o o' : Observation} (h : ∀ k, o.written.lookup k = o'.written.lookup k) :
    o = o' := by
  have ho := ofJson?_of_lookup o.nodup_written h
  rw [← toJson_eq, ofJson?_toJson, Option.some.injEq] at ho
  exact ho

/-- **Nothing is left of the old one** just if the new one sets all that was set. -/
theorem overlay_eq_iff (old new : Observation) :
    old.overlay new = new ↔
      ∀ k, new.toJson.get? k = none → old.toJson.get? k = none := by
  constructor
  · intro h k hk
    have ho := lookup_overlay old new k
    rw [h] at ho
    change new.written.lookup k = none at hk
    rw [hk, Option.none_or] at ho
    exact ho.symm
  · intro h
    refine eq_of_lookup fun k => ?_
    rw [lookup_overlay]
    cases hk : new.written.lookup k with
    | none => exact h k hk
    | some j => rfl

end Observation

namespace Condition

/-- A condition is read back. -/
theorem ofJson?_toJson (c : Condition) : ofJson? c.toJson = some c := by
  unfold ofJson? toJson
  refine Json.bind_record?_fields [] rfl (by decide) fun written hl => ?_
  have htype := Json.required_slotOf Json.text?_str (hl "type")
  have hstatus := Json.required_slotOf Json.text?_str (hl "status")
  have htime := Json.required_slotOf Instant.ofJson?_toJson (hl "lastTransitionTime")
  have hreason := Json.optional_slotOf Json.text?_str rfl (hl "reason")
  have hmessage := Json.optional_slotOf Json.text?_str rfl (hl "message")
  rw [htype, hstatus, htime, hreason, hmessage]
  rfl

end Condition

namespace Status

/-- The members of a status that are set. -/
def written (s : Status) : List (String × Json) :=
  Json.present [("atProvider", some s.atProvider.toJson),
    ("conditions", Json.listUnlessEmpty Condition.toJson s.conditions)]

theorem toJson_eq (s : Status) : s.toJson = .obj s.written := rfl

theorem nodup_written (s : Status) : (s.written.map (·.1)).Nodup := by
  refine Json.nodup_present ?_
  show ["atProvider", "conditions"].Nodup
  decide

theorem lookup_atProvider (s : Status) :
    s.written.lookup "atProvider" = some s.atProvider.toJson := rfl

theorem lookup_conditions (s : Status) :
    s.written.lookup "conditions" = Json.listUnlessEmpty Condition.toJson s.conditions := by
  unfold written
  cases s.conditions <;> rfl

/-- The new status, and where it is unset the old one. -/
def overlay (old new : Status) : Status where
  atProvider := old.atProvider.overlay new.atProvider
  conditions := if new.conditions.isEmpty then old.conditions else new.conditions

/-- **A status that is merged into another is laid over it.** -/
theorem ofJson?_merge (old new : Status) :
    ofJson? (old.toJson.merge new.toJson) = some (old.overlay new) := by
  have hl := Json.lookup_mergeMembers new.nodup_written old.written
  have hprovider : (Json.mergeMembers old.written new.written).lookup "atProvider" =
      some (old.atProvider.toJson.merge new.atProvider.toJson) := by
    rw [hl, lookup_atProvider, lookup_atProvider]
    rfl
  have hconditions : (Json.mergeMembers old.written new.written).lookup "conditions" =
      Json.listUnlessEmpty Condition.toJson (old.overlay new).conditions := by
    have hw (j : Json) (h : Json.listUnlessEmpty Condition.toJson new.conditions = some j) :
        j.Whole := Json.whole_of_listUnlessEmpty h
    rw [hl, lookup_conditions, lookup_conditions, Json.mergeMember_of_whole hw]
    exact (Json.listUnlessEmpty_or _ _ _).symm
  have hread := Json.defaultList_slotOf Condition.ofJson?_toJson hconditions
  have hobserved : (Json.slotOf (Json.mergeMembers old.written new.written) "atProvider").default
      {} Observation.ofJson? = some (old.atProvider.overlay new.atProvider) := by
    unfold Json.slotOf
    rw [hprovider]
    exact Observation.ofJson?_merge _ _
  rw [toJson_eq, toJson_eq, Json.merge_obj]
  unfold ofJson?
  rw [Json.record?_obj (Json.nodup_mergeMembers old.nodup_written new.written)]
  simp only [Option.bind_eq_bind, Option.bind_some]
  rw [hobserved, hread]
  rfl

/-- What is written reads back. -/
theorem ofJson?_toJson (s : Status) : ofJson? s.toJson = some s := by
  have hread := Json.defaultList_slotOf Condition.ofJson?_toJson (lookup_conditions s)
  have hobserved : (Json.slotOf s.written "atProvider").default {} Observation.ofJson? =
      some s.atProvider := by
    unfold Json.slotOf
    rw [lookup_atProvider]
    exact Observation.ofJson?_toJson _
  rw [toJson_eq]
  unfold ofJson?
  rw [Json.record?_obj s.nodup_written]
  simp only [Option.bind_eq_bind, Option.bind_some]
  rw [hobserved, hread]
  rfl

/-- The new status sets all that the old one set. -/
structure Covers (new old : Status) : Prop where
  atProvider : ∀ k, new.atProvider.toJson.get? k = none → old.atProvider.toJson.get? k = none
  conditions : new.conditions = [] → old.conditions = []

theorem overlay_eq_iff (old new : Status) : old.overlay new = new ↔ new.Covers old := by
  have hconditions : (if new.conditions.isEmpty then old.conditions else new.conditions) =
      new.conditions ↔ (new.conditions = [] → old.conditions = []) := by
    cases hc : new.conditions with
    | nil => simp
    | cons c cs => simp
  have hprovider := Observation.overlay_eq_iff old.atProvider new.atProvider
  constructor
  · intro h
    exact ⟨hprovider.1 (congrArg Status.atProvider h), hconditions.1 (congrArg Status.conditions h)⟩
  · intro h
    unfold overlay
    rw [hprovider.2 h.atProvider, hconditions.2 h.conditions]

end Status

namespace Kube

variable {name : String} {old new : Status} {r : Request} {document : Json}

/-- What is left of a document once the merge patch in a request took effect. -/
def Request.patched (r : Request) (document : Json) : Json :=
  document.merge (r.body.getD (.obj []))

/-- The status in a document, if it is read. -/
def statusOf? (document : Json) : Option Status := (document.get? "status").bind Status.ofJson?

/-- **What is stored is the new status laid over the old one.** -/
theorem stored_eq_overlay (hr : (Call.setStatus name new).request = .ok r)
    (hd : document.get? "status" = some old.toJson) :
    statusOf? (r.patched document) = some (old.overlay new) := by
  have hbody : r.body = some (.obj [("status", new.toJson)]) :=
    (Request.targets_of_write hr).body
  have hnodup : ([("status", new.toJson)].map (·.1)).Nodup := List.pairwise_singleton _ _
  unfold statusOf? Request.patched
  rw [hbody, Option.getD_some, Json.get?_merge hnodup, hd]
  exact Status.ofJson?_merge old new

/-- **The new status is what is stored** just if it sets all that the old one set. -/
theorem stored_eq_iff (hr : (Call.setStatus name new).request = .ok r)
    (hd : document.get? "status" = some old.toJson) :
    statusOf? (r.patched document) = some new ↔ new.Covers old := by
  rw [stored_eq_overlay hr hd, Option.some.injEq]
  exact Status.overlay_eq_iff old new

namespace Sample

/-- The status of a database without tags. -/
def untagged : Status where
  atProvider := { id := some "db-1", size := some "db-s-1vcpu-1gb" }

/-- The status of the same database with a tag. -/
def tagged : Status where
  atProvider := { id := some "db-1", size := some "db-s-1vcpu-1gb", tags := ["prod"] }

/-- The request that writes a status for the cluster with the name `pg`. -/
theorem request_setStatus (status : Status) : (Call.setStatus "pg" status).request =
    .ok ⟨.patch, Call.clusterPlace ++ "/pg/status", some "", some "application/merge-patch+json",
      some (Call.nested "status" status.toJson)⟩ :=
  Request.write_eq_ok (by decide) rfl (List.all_eq_true.1 (by decide))
    (List.all_eq_true.1 (by decide)) (by decide) rfl _ _

end Sample

/-- A tag that is new is stored. -/
theorem stored_eq_iff_tagged : ∃ r, (Call.setStatus "pg" Sample.tagged).request = .ok r ∧
    statusOf? (r.patched (Call.nested "status" Sample.untagged.toJson)) = some Sample.tagged := by
  have hcovers : Sample.tagged.Covers Sample.untagged := (Status.overlay_eq_iff _ _).1 (by decide)
  exact ⟨_, Sample.request_setStatus _, (stored_eq_iff (Sample.request_setStatus _) rfl).2 hcovers⟩

/-- A tag that is gone stays stored. -/
theorem tag_left_behind : ∃ r, (Call.setStatus "pg" Sample.untagged).request = .ok r ∧
    statusOf? (r.patched (Call.nested "status" Sample.tagged.toJson)) = some Sample.tagged ∧
    Sample.tagged ≠ Sample.untagged := by
  have hoverlay : Sample.tagged.overlay Sample.untagged = Sample.tagged := by decide
  refine ⟨_, Sample.request_setStatus _, ?_, by decide⟩
  rw [stored_eq_overlay (Sample.request_setStatus _) rfl, hoverlay]

end Kube

end ClusterKeeper
