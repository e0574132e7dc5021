import ClusterKeeper.Proofs.StoredStatus

/-!
# Metadata that are read back

The types of the object store keep times in whole seconds, and of the fields that a manager has
set only values that have a meaning all through. Metadata within these bounds are read back as
they were written, and no others are.

* `Dict.ofJson?_toJson`: a dictionary is read back.
* `Instant.loose?_timeJson`: a time is read back in whole seconds.
* `ManagedFields.ofJson?_toJson_iff`, `Metadata.ofJson?_toJson_iff`: what is read back.
-/

namespace ClusterKeeper

namespace Dict

variable {α : Type}

theorem put_of_not_mem {key : String} {es : List (String × α)} (h : key ∉ es.map (·.1)) (a : α) :
    put key a es = es ++ [(key, a)] := by
  induction es with
  | nil => rfl
  | cons e rest ih =>
    rw [List.map_cons, List.mem_cons, not_or] at h
    rw [put, if_neg (Ne.symm h.1), ih h.2, List.cons_append]

theorem entries_foldl_insert (es : List (String × α)) {d : Dict α}
    (h : ((d.entries ++ es).map (·.1)).Nodup) :
    (es.foldl (fun d e => d.insert e.1 e.2) d).entries = d.entries ++ es := by
  induction es generalizing d with
  | nil => rw [List.foldl_nil, List.append_nil]
  | cons e rest ih =>
    have hnew : e.1 ∉ d.entries.map (·.1) := by
      rw [List.map_append, List.nodup_append] at h
      exact fun hm => h.2.2 _ hm _ List.mem_cons_self rfl
    have hput : (d.insert e.1 e.2).entries = d.entries ++ [e] := put_of_not_mem hnew e.2
    have hassoc : (d.insert e.1 e.2).entries ++ rest = d.entries ++ e :: rest := by
      rw [hput, List.append_assoc, List.singleton_append]
    rw [List.foldl_cons, ih (hassoc ▸ h), hassoc]

/-- Nothing is lost of entries under distinct keys. -/
theorem ofEntries_entries (d : Dict α) : ofEntries d.entries = d := by
  have he := entries_foldl_insert d.entries (d := empty) d.distinct
  cases d with
  | mk entries distinct => exact Dict.mk.injEq .. ▸ he

variable {write : α → Json} {read : Json → Option α}

/-- **A dictionary is read back** if its values are. -/
theorem ofJson?_toJson (hread : ∀ a, read (write a) = some a) (d : Dict α) :
    ofJson? read (d.toJson write) = some d := by
  have hentries : (d.map write).entries.mapM
      (fun m : String × Json => (read m.2).map fun a => (m.1, a)) = some d.entries := by
    refine Json.mapM_write (fun e => ?_) d.entries
    rw [hread, Option.map_some]
  rw [toJson, ofJson?, hentries, Option.map_some, ofEntries_entries]

end Dict

theorem Json.flag?_bool (b : Bool) : flag? (.bool b) = some b := rfl

namespace Instant

theorem wholeSecond_eq_iff (t : Instant) : t.wholeSecond = t ↔ t.nano = 0 := by
  cases t
  simp [wholeSecond, eq_comm]

theorem map_wholeSecond_eq_iff (t? : Option Instant) :
    t?.map wholeSecond = t? ↔ ∀ t ∈ t?, t.nano = 0 := by
  cases t? with
  | none => simp
  | some t => simp [wholeSecond_eq_iff]

/-- **A time is read back in whole seconds.** -/
theorem loose?_timeJson {ms : List (String × Json)} (hn : (ms.map (·.1)).Nodup) {k : String}
    {t? : Option Instant} (h : ms.lookup k = t?.map fun t => t.wholeSecond.toJson) :
    Json.loose? k ofJson? ms = some (t?.map wholeSecond) := by
  refine Json.loose?_written hn ofJson?_toJson rfl ?_
  rw [h, Option.map_map]
  rfl

end Instant

namespace OwnerReference

/-- An owner is read back. -/
theorem ofJson?_toJson (o : OwnerReference) : ofJson? o.toJson = some o := by
  unfold ofJson? toJson
  refine Json.bind_members?_fields (P := (· = some o))
    ["apiVersion", "blockOwnerDeletion", "controller", "kind", "name", "uid"] rfl (by decide)
    fun written hn hl => ?_
  have text {k s : String} (hk : written.lookup k = some (.str s)) :
      Json.loose? k Json.text? written = some (some s) :=
    Json.loose?_written hn Json.text?_str rfl (v := some s) hk
  have flag {k : String} {v : Option Bool} (hk : written.lookup k = v.map .bool) :
      Json.loose? k Json.flag? written = some v :=
    Json.loose?_written hn Json.flag?_bool rfl hk
  rw [text (hl "apiVersion"), flag (hl "blockOwnerDeletion"), flag (hl "controller"),
    text (hl "kind"), text (hl "name"), text (hl "uid")]
  rfl

end OwnerReference

namespace ManagedFields

/-- Managed fields that are read back: the time is in whole seconds, and what is kept of the
fields has a meaning all through. -/
structure Lasting (m : ManagedFields) : Prop where
  time : ∀ t ∈ m.time, t.nano = 0
  fields : ∀ j ∈ m.fieldsV1, j ≠ .null ∧ j.plain? keptDepth = some j

/-- **Managed fields are read back** just if they are lasting. -/
theorem ofJson?_toJson_iff (m : ManagedFields) : ofJson? m.toJson = some m ↔ m.Lasting := by
  unfold ofJson? toJson
  refine Json.bind_members?_fields (P := (· = some m ↔ m.Lasting))
    ["apiVersion", "fieldsType", "fieldsV1", "manager", "operation", "subresource", "time"] rfl
    (by decide) fun written hn hl => ?_
  have text {k : String} {v : Option String} (hk : written.lookup k = v.map .str) :
      Json.loose? k Json.text? written = some v :=
    Json.loose?_written hn Json.text?_str rfl hk
  have htime := Instant.loose?_timeJson hn (hl "time")
  have hfields : Json.loose? "fieldsV1" (Json.plain? keptDepth) written = some m.fieldsV1 ↔
      ∀ j ∈ m.fieldsV1, j ≠ .null ∧ j.plain? keptDepth = some j := by
    rw [Json.loose?_eq hn]
    exact Json.optional_slotOf_iff (hl "fieldsV1")
  rw [text (hl "apiVersion"), text (hl "fieldsType"), text (hl "manager"), text (hl "operation"),
    text (hl "subresource"), htime]
  simp only [Option.bind_eq_bind, Option.bind_some, Option.bind_eq_some_iff, Option.some.injEq]
  constructor
  · rintro ⟨v, hv, he⟩
    have hvf := congrArg fieldsV1 he
    have ht := congrArg time he
    exact ⟨(Instant.map_wholeSecond_eq_iff _).1 ht, hfields.1 (hv.trans (congrArg some hvf))⟩
  · intro h
    refine ⟨m.fieldsV1, hfields.2 h.fields, ?_⟩
    rw [(Instant.map_wholeSecond_eq_iff _).2 h.time]

end ManagedFields

namespace Metadata

theorem int64?_int64Json (n : Int64) : (int64Json n).int64? = some n := by
  have hl := Int64.le_toInt n
  have hu := Int64.toInt_lt n
  unfold int64Json Json.int64?
  simp only
  rw [if_pos ⟨hl, hu⟩, Int64.ofInt_toInt]

/-- Metadata that are read back: times are in whole seconds, and managed fields are lasting. -/
structure Lasting (m : Metadata) : Prop where
  creation : ∀ t ∈ m.creationTimestamp, t.nano = 0
  deletion : ∀ t ∈ m.deletionTimestamp, t.nano = 0
  managed : ∀ fs ∈ m.managedFields, ∀ f ∈ fs, f.Lasting

/-- **Metadata are read back** just if they are lasting. -/
theorem ofJson?_toJson_iff (m : Metadata) : ofJson? m.toJson = some m ↔ m.Lasting := by
  unfold ofJson? toJson
  refine Json.bind_members?_fields (P := (· = some m ↔ m.Lasting))
    ["annotations", "creationTimestamp", "deletionGracePeriodSeconds", "deletionTimestamp",
      "finalizers", "generateName", "generation", "labels", "managedFields", "name", "namespace",
      "ownerReferences", "resourceVersion", "selfLink", "uid"] rfl
    (by decide) fun written hn hl => ?_
  have text {k : String} {v : Option String} (hk : written.lookup k = v.map .str) :
      Json.loose? k Json.text? written = some v :=
    Json.loose?_written hn Json.text?_str rfl hk
  have texts {k : String} {v : Option (Dict String)}
      (hk : written.lookup k = v.map (Dict.toJson .str)) :
      Json.loose? k (Dict.ofJson? Json.text?) written = some v :=
    Json.loose?_written hn (Dict.ofJson?_toJson Json.text?_str) rfl hk
  have number {k : String} {v : Option Int64} (hk : written.lookup k = v.map int64Json) :
      Json.loose? k Json.int64? written = some v :=
    Json.loose?_written hn int64?_int64Json rfl hk
  have hfinalizers := Json.loose?_written hn (Json.listOf?_list Json.text?_str) rfl
    (hl "finalizers")
  have howners := Json.loose?_written hn (Json.listOf?_list OwnerReference.ofJson?_toJson) rfl
    (hl "ownerReferences")
  have hcreation := Instant.loose?_timeJson hn (hl "creationTimestamp")
  have hdeletion := Instant.loose?_timeJson hn (hl "deletionTimestamp")
  have hmanaged : Json.loose? "managedFields" (Json.listOf? ManagedFields.ofJson?) written =
      some m.managedFields ↔ ∀ fs ∈ m.managedFields, ∀ f ∈ fs, f.Lasting := by
    rw [Json.loose?_eq hn, Json.optional_slotOf_iff (hl "managedFields")]
    refine forall₂_congr fun fs _ => ?_
    rw [Json.listOf?_list_iff]
    simp only [ManagedFields.ofJson?_toJson_iff]
    exact and_iff_right nofun
  rw [texts (hl "annotations"), hcreation, number (hl "deletionGracePeriodSeconds"), hdeletion,
    hfinalizers, text (hl "generateName"), number (hl "generation"), texts (hl "labels"),
    text (hl "name"), text (hl "namespace"), howners, text (hl "resourceVersion"),
    text (hl "selfLink"), text (hl "uid")]
  simp only [Option.bind_eq_bind, Option.bind_some, Option.bind_eq_some_iff, Option.some.injEq]
  constructor
  · rintro ⟨v, hv, he⟩
    have hvm := congrArg managedFields he
    exact ⟨(Instant.map_wholeSecond_eq_iff _).1 (congrArg creationTimestamp he),
      (Instant.map_wholeSecond_eq_iff _).1 (congrArg deletionTimestamp he),
      hmanaged.1 (hv.trans (congrArg some hvm))⟩
  · intro h
    refine ⟨m.managedFields, hmanaged.2 h.managed, ?_⟩
    rw [(Instant.map_wholeSecond_eq_iff _).2 h.creation,
      (Instant.map_wholeSecond_eq_iff _).2 h.deletion]

end Metadata

end ClusterKeeper
