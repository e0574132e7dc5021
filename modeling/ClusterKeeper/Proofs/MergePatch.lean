import ClusterKeeper.Dict
import ClusterKeeper.Proofs.Records

/-!
# Merge patches

What a store makes of a document and a merge patch: a member of the patch takes the place of the
member with its name, an object is merged member by member, and `null` removes.

* `Json.merge`: the patched document.
* `lookup_mergeMembers`: of a member, what the patch says, and else what there was.
* `mergeMember_of_whole`: what is no object takes the place of what there was.
-/

namespace ClusterKeeper.Json

/-- The members without those of a name. -/
def remove (name : String) (ms : List (String × Json)) : List (String × Json) :=
  ms.filter fun m => m.1 ≠ name

mutual

/-- The document after a merge patch. What is no object counts as an empty one, should the patch
be an object. -/
def merge (target : Json) : Json → Json
  | .obj ms => .obj (mergeMembers (target.members?.getD []) ms)
  | patch => patch

/-- The members after those of a patch. -/
def mergeMembers (ts : List (String × Json)) : List (String × Json) → List (String × Json)
  | [] => ts
  | (name, .null) :: rest => mergeMembers (remove name ts) rest
  | (name, j) :: rest =>
    mergeMembers (Dict.put name (merge ((ts.lookup name).getD .null) j) ts) rest

end

theorem merge_obj (ts ms : List (String × Json)) :
    merge (.obj ts) (.obj ms) = .obj (mergeMembers ts ms) := rfl

/-- What a patch makes of one member: `j?` is what it says, `old?` what there was. -/
def mergeMember (old? : Option Json) : Option Json → Option Json
  | none => old?
  | some .null => none
  | some j => some (merge (old?.getD .null) j)

theorem lookup_remove_self (name : String) (ms : List (String × Json)) :
    (remove name ms).lookup name = none := by
  induction ms with
  | nil => rfl
  | cons m rest ih =>
    unfold remove at ih ⊢
    by_cases h : m.1 = name
    · rw [List.filter_cons_of_neg (by simpa using h)]
      exact ih
    · have h' : (name == m.1) = false := by simpa using fun hc => h hc.symm
      rw [List.filter_cons_of_pos (by simpa using h), List.lookup_cons, h']
      exact ih

theorem lookup_remove_of_ne {k name : String} (hk : k ≠ name) (ms : List (String × Json)) :
    (remove name ms).lookup k = ms.lookup k := by
  induction ms with
  | nil => rfl
  | cons m rest ih =>
    unfold remove at ih ⊢
    by_cases h : m.1 = name
    · have h' : (k == m.1) = false := by simpa [h] using hk
      rw [List.filter_cons_of_neg (by simpa using h), List.lookup_cons, h']
      exact ih
    · rw [List.filter_cons_of_pos (by simpa using h), List.lookup_cons, List.lookup_cons, ih]

/-- The members after one of a patch. -/
def mergeOne (ts : List (String × Json)) (name : String) (j : Json) : List (String × Json) :=
  match mergeMember (ts.lookup name) (some j) with
  | none => remove name ts
  | some merged => Dict.put name merged ts

theorem mergeMembers_cons (ts : List (String × Json)) (name : String) (j : Json)
    (rest : List (String × Json)) :
    mergeMembers ts ((name, j) :: rest) = mergeMembers (mergeOne ts name j) rest := by
  cases j <;> rfl

theorem lookup_mergeOne_self (ts : List (String × Json)) (name : String) (j : Json) :
    (mergeOne ts name j).lookup name = mergeMember (ts.lookup name) (some j) := by
  unfold mergeOne
  cases mergeMember (ts.lookup name) (some j) with
  | none => exact lookup_remove_self name ts
  | some merged => exact Dict.lookup_put_self ts

theorem lookup_mergeOne_of_ne {k name : String} (hk : k ≠ name) (ts : List (String × Json))
    (j : Json) : (mergeOne ts name j).lookup k = ts.lookup k := by
  unfold mergeOne
  cases mergeMember (ts.lookup name) (some j) with
  | none => exact lookup_remove_of_ne hk ts
  | some merged => exact Dict.lookup_put_of_ne hk ts

/-- **One member of the patched document**, of a patch that names each member once. -/
theorem lookup_mergeMembers {ms : List (String × Json)} (h : (ms.map (·.1)).Nodup)
    (ts : List (String × Json)) (k : String) :
    (mergeMembers ts ms).lookup k = mergeMember (ts.lookup k) (ms.lookup k) := by
  induction ms generalizing ts with
  | nil => rfl
  | cons m rest ih =>
    obtain ⟨name, j⟩ := m
    simp only [List.map_cons, List.nodup_cons] at h
    rw [mergeMembers_cons, ih h.2, List.lookup_cons]
    by_cases hk : k = name
    · subst hk
      rw [lookup_eq_none_of_not_mem h.1, lookup_mergeOne_self, beq_self_eq_true]
      rfl
    · have hk' : (k == name) = false := by simpa using hk
      rw [lookup_mergeOne_of_ne hk, hk']

/-- **One member of a document that an object is merged into.** -/
theorem get?_merge {ms : List (String × Json)} (h : (ms.map (·.1)).Nodup) (target : Json)
    (k : String) :
    (merge target (.obj ms)).get? k = mergeMember (target.get? k) (ms.lookup k) := by
  have ht : target.get? k = (target.members?.getD []).lookup k := by cases target <;> rfl
  rw [ht]
  exact lookup_mergeMembers h _ k

theorem nodup_mergeOne {ts : List (String × Json)} (h : (ts.map (·.1)).Nodup) (name : String)
    (j : Json) : ((mergeOne ts name j).map (·.1)).Nodup := by
  unfold mergeOne
  cases mergeMember (ts.lookup name) (some j) with
  | none => exact List.Nodup.sublist (List.filter_sublist.map _) h
  | some merged => exact Dict.nodup_keys_put h

/-- Merging repeats no name. -/
theorem nodup_mergeMembers {ts : List (String × Json)} (h : (ts.map (·.1)).Nodup)
    (ms : List (String × Json)) : ((mergeMembers ts ms).map (·.1)).Nodup := by
  induction ms generalizing ts with
  | nil => exact h
  | cons m rest ih =>
    rw [mergeMembers_cons]
    exact ih (nodup_mergeOne h m.1 m.2)

/-- A value that a patch takes as it is: it neither removes nor is merged. -/
def Whole : Json → Prop
  | .null | .obj _ => False
  | _ => True

/-- **Whole values take the place of what there was.** -/
theorem mergeMember_of_whole {j? : Option Json} (h : ∀ j, j? = some j → Whole j)
    (old? : Option Json) : mergeMember old? j? = j?.or old? := by
  cases j? with
  | none => rfl
  | some j =>
    have hj := h j rfl
    cases j with
    | null => exact hj.elim
    | obj ms => exact hj.elim
    | _ => rfl

end ClusterKeeper.Json
