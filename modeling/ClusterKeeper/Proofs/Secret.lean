import ClusterKeeper.Proofs.Base64
import ClusterKeeper.Proofs.JsonText
import ClusterKeeper.Proofs.Metadata
import ClusterKeeper.Proofs.Utf8

/-!
# Secrets are read back

A secret is written to JSON text and read back from it, its bytes in base 64 and none of them lost.
The text under a key is the one of which these bytes are.

* `Json.lasting_fields`: an object is read back from its text if its members are.
* `Secret.ofJson?_toJson_iff`: which secrets are read back.
* `Secret.ofText?_render`: the same from their text.
* `Secret.text_eq_ok_iff`, `Secret.text_eq_missingKey_iff`: what is under a key.
-/

namespace ClusterKeeper

/-! ## Values that are read back -/

namespace Json

/-- An object is lasting if what its members hold is. -/
theorem lasting_fields {ms : List (String × Option Json)} (h : ∀ m ∈ ms, ∀ j ∈ m.2, j.Lasting) :
    (fields ms).Lasting := by
  refine .obj fun member hmember => ?_
  obtain ⟨⟨name, j?⟩, hm, he⟩ := List.mem_filterMap.1 hmember
  obtain ⟨j, hj, rfl⟩ := Option.map_eq_some_iff.1 he
  exact h (name, j?) hm j hj

theorem lasting_list {α : Type} {write : α → Json} {xs : List α}
    (h : ∀ x ∈ xs, (write x).Lasting) : (list write xs).Lasting := by
  refine .arr fun j hj => ?_
  obtain ⟨x, hx, rfl⟩ := List.mem_map.1 hj
  exact h x hx

theorem lasting_of_map {α : Type} {write : α → Json} {a? : Option α}
    (h : ∀ a ∈ a?, (write a).Lasting) : ∀ j ∈ a?.map write, j.Lasting := by
  intro j hj
  obtain ⟨a, ha, rfl⟩ := Option.map_eq_some_iff.1 hj
  exact h a ha

theorem lasting_of_some {j : Json} (h : j.Lasting) : ∀ i ∈ some j, i.Lasting := by
  rintro i ⟨⟩
  exact h

theorem lasting_text (s? : Option String) : ∀ j ∈ s?.map Json.str, j.Lasting :=
  lasting_of_map fun s _ => .str s

end Json

open Json (lasting_fields lasting_list lasting_of_map lasting_of_some lasting_text)

theorem Dict.lasting_toJson {α : Type} {write : α → Json} (h : ∀ a, (write a).Lasting)
    (d : Dict α) : (d.toJson write).Lasting := by
  refine .obj fun m hm => ?_
  obtain ⟨e, -, rfl⟩ := List.mem_map.1 hm
  exact h e.2

theorem OwnerReference.lasting_toJson (o : OwnerReference) : o.toJson.Lasting := by
  refine lasting_fields ?_
  simp only [List.forall_mem_cons]
  exact ⟨lasting_of_some (.str _), lasting_of_map fun _ _ => .bool _,
    lasting_of_map fun _ _ => .bool _, lasting_of_some (.str _), lasting_of_some (.str _),
    lasting_of_some (.str _), nofun⟩

theorem ManagedFields.lasting_toJson {m : ManagedFields} (h : ∀ j ∈ m.fieldsV1, j.Lasting) :
    m.toJson.Lasting := by
  refine lasting_fields ?_
  simp only [List.forall_mem_cons]
  exact ⟨lasting_text _, lasting_text _, lasting_of_map h, lasting_text _, lasting_text _,
    lasting_text _, lasting_of_map fun _ _ => .str _, nofun⟩

theorem Metadata.lasting_toJson {m : Metadata}
    (h : ∀ fs ∈ m.managedFields, ∀ f ∈ fs, ∀ j ∈ f.fieldsV1, j.Lasting) : m.toJson.Lasting := by
  have time (t? : Option Instant) : ∀ j ∈ t?.map timeJson, j.Lasting :=
    lasting_of_map fun _ _ => .str _
  have texts (d? : Option (Dict String)) : ∀ j ∈ d?.map (Dict.toJson .str), j.Lasting :=
    lasting_of_map fun d _ => d.lasting_toJson .str
  have number (n? : Option Int64) : ∀ j ∈ n?.map int64Json, j.Lasting := by
    refine lasting_of_map fun n _ => .int ?_
    have hl := n.le_toInt
    have hu := n.toInt_lt
    omega
  refine lasting_fields ?_
  simp only [List.forall_mem_cons]
  have finalizers : ∀ j ∈ m.finalizers.map (Json.list .str), j.Lasting :=
    lasting_of_map fun _ _ => lasting_list fun s _ => .str s
  have owners : ∀ j ∈ m.ownerReferences.map (Json.list OwnerReference.toJson), j.Lasting :=
    lasting_of_map fun _ _ => lasting_list fun o _ => o.lasting_toJson
  have managed : ∀ j ∈ m.managedFields.map (Json.list ManagedFields.toJson), j.Lasting :=
    lasting_of_map fun fs hfs =>
      lasting_list fun f hf => ManagedFields.lasting_toJson (h fs hfs f hf)
  exact ⟨texts _, time _, number _, time _, finalizers, lasting_text _, number _, texts _, managed,
    lasting_text _, lasting_text _, owners, lasting_text _, lasting_text _, lasting_text _, nofun⟩

/-! ## Secrets -/

namespace Secret

/-- **A secret is lasting** if what its metadata keep of managed fields is. -/
theorem lasting_toJson {s : Secret}
    (h : ∀ fs ∈ s.metadata.managedFields, ∀ f ∈ fs, ∀ j ∈ f.fieldsV1, j.Lasting) :
    s.toJson.Lasting := by
  refine lasting_fields ?_
  simp only [List.forall_mem_cons]
  exact ⟨lasting_of_some (.str _), lasting_of_some (.str _),
    lasting_of_map fun d _ => d.lasting_toJson fun _ => .str _,
    lasting_of_map fun _ _ => .bool _, lasting_of_some (Metadata.lasting_toJson h),
    lasting_of_map fun d _ => d.lasting_toJson .str, lasting_of_map fun _ _ => .str _, nofun⟩

theorem bytes?_bytesJson (bytes : Bytes) : bytes? (bytesJson bytes) = some bytes := by
  rw [bytesJson, bytes?, String.toList_ofList, Base64.decode?_encode]

/-- A member that is the expected text, and the only one of its name. -/
theorem tagged_of_lookup {ms : List (String × Json)} (hn : (ms.map (·.1)).Nodup)
    {name expected : String} (h : ms.lookup name = some (.str expected)) :
    tagged name expected ms = true := by
  unfold tagged
  rw [List.all_eq_true]
  intro m hm
  by_cases hname : m.1 = name
  · have hmem : (name, m.2) ∈ ms := hname ▸ hm
    have hvalue := (Json.lookup_eq_some_iff_mem (Json.countName_le_one hn name)).2 hmem
    have hstr : m.2 = .str expected := Option.some.inj (hvalue.symm.trans h)
    have hexactly : exactly? expected m.2 = some expected := by
      rw [hstr, exactly?, Json.text?_str, Option.bind_some, if_pos rfl]
    rw [hexactly, Option.isSome_some, Bool.or_true]
  · rw [bne_iff_ne.2 hname, Bool.true_or]

/-- **A secret is read back** just if its metadata are. -/
theorem ofJson?_toJson_iff (s : Secret) : ofJson? s.toJson = some s ↔ s.metadata.Lasting := by
  unfold ofJson? toJson
  refine Json.bind_members?_fields (P := (· = some s ↔ s.metadata.Lasting))
    ["apiVersion", "kind", "data", "immutable", "metadata", "stringData", "type"] rfl (by decide)
    fun written hn hl => ?_
  have htagged : (tagged "apiVersion" "v1" written && tagged "kind" "Secret" written) = true := by
    rw [tagged_of_lookup hn (hl "apiVersion"), tagged_of_lookup hn (hl "kind"), Bool.and_self]
  have hdata := Json.loose?_written hn (Dict.ofJson?_toJson bytes?_bytesJson) rfl (hl "data")
  have himmutable := Json.loose?_written hn Json.flag?_bool rfl (hl "immutable")
  have hstrings := Json.loose?_written hn (Dict.ofJson?_toJson Json.text?_str) rfl (hl "stringData")
  have htype := Json.loose?_written hn Json.text?_str rfl (hl "type")
  -- the metadata alone may come back changed, so what is read of them stays open
  have hmetadata : Json.loose? "metadata" Metadata.ofJson? written =
      (Metadata.ofJson? s.metadata.toJson).map some := by
    rw [Json.loose?_eq hn, Json.slotOf, hl "metadata"]
    rfl
  rw [if_pos htagged, hdata, himmutable, hstrings, htype, hmetadata, ← Metadata.ofJson?_toJson_iff]
  cases Metadata.ofJson? s.metadata.toJson with
  | none => simp
  | some m =>
    simp only [Option.bind_eq_bind, Option.bind_some, Option.map_some, Option.getD_some,
      Option.some.injEq]
    constructor
    · intro h
      exact congrArg metadata h
    · rintro rfl
      rfl

/-- **A secret is read back from its text.** -/
theorem ofText?_render {s : Secret} (hm : s.metadata.Lasting)
    (hf : ∀ fs ∈ s.metadata.managedFields, ∀ f ∈ fs, ∀ j ∈ f.fieldsV1, j.Lasting) :
    (Json.ofText? s.toJson.render).bind ofJson? = some s := by
  rw [Json.ofText?_render (lasting_toJson hf), Option.bind_some]
  exact (ofJson?_toJson_iff s).2 hm

variable {s : Secret} {key text : String}

/-- **The text under a key** is the one whose bytes stand there. -/
theorem text_eq_ok_iff : s.text key = .ok text ↔
    ∃ data, s.data = some data ∧ data.get? key = some (Utf8.encode text) := by
  unfold Secret.text
  cases s.data with
  | none => simp
  | some data =>
    simp only [Option.some.injEq, exists_eq_left']
    cases data.get? key with
    | none => simp
    | some bytes =>
      simp only [Option.some.injEq]
      rw [← Utf8.decode_eq_ok_iff]
      cases Utf8.decode bytes with
      | error fault => simp
      | ok t => simp

theorem text_eq_missingKey_iff : s.text key = .error (.missingKey key) ↔
    ∃ data, s.data = some data ∧ data.get? key = none := by
  unfold Secret.text
  cases s.data with
  | none => simp
  | some data =>
    simp only [Option.some.injEq, exists_eq_left']
    cases data.get? key with
    | none => simp
    | some bytes =>
      simp only
      cases Utf8.decode bytes with
      | error fault => simp
      | ok t => simp

end Secret

end ClusterKeeper
