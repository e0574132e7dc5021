import ClusterKeeper.Json.Record

/-!
# Records that are written and read

A record is written as an object of its members that are set. What is read under a name is the
member of that name, or nothing.

* `get?_fields`: one member of what is written.
* `record?_obj`: what is read of an object without repetitions.
* `required_slotOf`, `optional_slotOf`, `default_slotOf`, `defaultList_slotOf`: a member is read
  back.
* `loose?_eq`: where members may be repeated, those that are not are read as others are.
* `bind_record?_fields`: reading a record that was written.
-/

namespace ClusterKeeper.Json

/-- The members that are set. -/
def present (ms : List (String × Option Json)) : List (String × Json) :=
  ms.filterMap fun (name, j?) => j?.map fun j => (name, j)

theorem fields_eq (ms : List (String × Option Json)) : fields ms = .obj (present ms) := rfl

@[simp] theorem present_none (name : String) (ms : List (String × Option Json)) :
    present ((name, none) :: ms) = present ms := rfl

@[simp] theorem present_some (name : String) (j : Json) (ms : List (String × Option Json)) :
    present ((name, some j) :: ms) = (name, j) :: present ms := rfl

theorem mem_of_mem_present {k : String} {ms : List (String × Option Json)}
    (h : k ∈ (present ms).map (·.1)) : k ∈ ms.map (·.1) := by
  induction ms with
  | nil => exact h
  | cons m rest ih =>
    obtain ⟨name, j?⟩ := m
    cases j? with
    | none => exact List.mem_cons_of_mem _ (ih h)
    | some j =>
      rw [present_some, List.map_cons, List.mem_cons] at h
      rcases h with rfl | h
      · exact List.mem_cons_self
      · exact List.mem_cons_of_mem _ (ih h)

theorem nodup_present {ms : List (String × Option Json)} (h : (ms.map (·.1)).Nodup) :
    ((present ms).map (·.1)).Nodup := by
  induction ms with
  | nil => exact List.nodup_nil
  | cons m rest ih =>
    obtain ⟨name, j?⟩ := m
    simp only [List.map_cons, List.nodup_cons] at h
    cases j? with
    | none => exact ih h.2
    | some j =>
      rw [present_some, List.map_cons, List.nodup_cons]
      exact ⟨fun hm => h.1 (mem_of_mem_present hm), ih h.2⟩

theorem lookup_eq_none_of_not_mem {α : Type} {k : String} {ms : List (String × α)}
    (h : k ∉ ms.map (·.1)) : ms.lookup k = none := by
  rw [List.lookup_eq_none_iff]
  intro m hm
  have hne : k ≠ m.1 := fun hc => h (hc ▸ List.mem_map_of_mem hm)
  simpa using hne

theorem lookup_cons_of_ne {α : Type} {k name : String} (h : k ≠ name) (a : α)
    (ms : List (String × α)) : ((k, a) :: ms).lookup name = ms.lookup name := by
  have hbeq : (name == k) = false := by simpa using h.symm
  rw [List.lookup_cons, hbeq]

theorem mem_of_lookup {α : Type} {k : String} {a : α} {ms : List (String × α)}
    (h : ms.lookup k = some a) : (k, a) ∈ ms := by
  rw [List.lookup_eq_some_iff] at h
  obtain ⟨before, behind, rfl, -⟩ := h
  exact List.mem_append_right _ List.mem_cons_self

theorem mem_names_iff {α : Type} {k : String} {ms : List (String × α)} :
    k ∈ ms.map (·.1) ↔ ∃ a, ms.lookup k = some a := by
  constructor
  · intro hm
    cases hl : ms.lookup k with
    | some a => exact ⟨a, rfl⟩
    | none =>
      obtain ⟨m, hmem, hname⟩ := List.mem_map.1 hm
      have hne := List.lookup_eq_none_iff.1 hl m hmem
      simp [hname] at hne
  · rintro ⟨a, hl⟩
    exact List.mem_map_of_mem (mem_of_lookup hl)

theorem lookup_map {α β : Type} (f : α → β) (ms : List (String × α)) (k : String) :
    (ms.map fun m => (m.1, f m.2)).lookup k = (ms.lookup k).map f := by
  induction ms with
  | nil => rfl
  | cons m rest ih =>
    rw [List.map_cons, List.lookup_cons, List.lookup_cons, ih]
    cases k == m.1 <;> rfl

/-- **One member of what is written**, if each name is declared once. -/
theorem lookup_present {ms : List (String × Option Json)} (h : (ms.map (·.1)).Nodup)
    (k : String) : (present ms).lookup k = (ms.lookup k).join := by
  induction ms with
  | nil => rfl
  | cons m rest ih =>
    obtain ⟨name, j?⟩ := m
    simp only [List.map_cons, List.nodup_cons] at h
    rw [List.lookup_cons]
    by_cases hk : k = name
    · subst hk
      rw [beq_self_eq_true]
      cases j? with
      | none => exact lookup_eq_none_of_not_mem fun hm => h.1 (mem_of_mem_present hm)
      | some j => rw [present_some, List.lookup_cons, beq_self_eq_true]; rfl
    · have hk' : (k == name) = false := by simpa using hk
      rw [hk']
      cases j? with
      | none => exact ih h.2
      | some j => rw [present_some, List.lookup_cons, hk']; exact ih h.2

theorem get?_fields {ms : List (String × Option Json)} (h : (ms.map (·.1)).Nodup) (k : String) :
    (fields ms).get? k = (ms.lookup k).join := lookup_present h k

theorem countName_le_one {ms : List (String × Json)} (h : (ms.map (·.1)).Nodup) (name : String) :
    countName name ms ≤ 1 := by
  have hc := List.nodup_iff_count.1 h name
  rwa [List.count, List.countP_map] at hc

theorem countName_of_lookup {ms : List (String × Json)} {name : String}
    (h : ms.lookup name = none) : countName name ms = 0 := by
  refine List.countP_eq_zero.2 fun m hm hname => ?_
  have hmem : name ∈ ms.map (·.1) := List.mem_map.2 ⟨m, hm, beq_iff_eq.1 hname⟩
  obtain ⟨j, hj⟩ := mem_names_iff.1 hmem
  rw [h] at hj
  cases hj

/-- A name that is not repeated holds the one value under it. -/
theorem lookup_eq_some_iff_mem {ms : List (String × Json)} {name : String} {j : Json}
    (hone : countName name ms ≤ 1) :
    ms.lookup name = some j ↔ (name, j) ∈ ms := by
  refine ⟨mem_of_lookup, fun hmem => ?_⟩
  -- the member that is there is the first of its name, since it is the only one
  obtain ⟨before, behind, rfl⟩ := List.append_of_mem hmem
  have hcount : countName name (before ++ (name, j) :: behind) =
      countName name before + (countName name behind + 1) := by
    unfold countName
    rw [List.countP_append, List.countP_cons_of_pos (by simp)]
  have hbefore : before.lookup name = none := by
    refine lookup_eq_none_of_not_mem fun hk => ?_
    obtain ⟨m, hm, hname⟩ := List.mem_map.1 hk
    have hpos : 0 < countName name before := List.countP_pos_iff.2 ⟨m, hm, by simpa using hname⟩
    omega
  rw [List.lookup_append, hbefore, List.lookup_cons_self, Option.none_or]

/-- What is read of an object that names each member once. -/
theorem record?_obj {ms : List (String × Json)} (h : (ms.map (·.1)).Nodup)
    (names : List String) : (obj ms).record? names = some (slotOf ms) := by
  have hall : (names.all fun name => countName name ms ≤ 1) = true := by
    rw [List.all_eq_true]
    exact fun name _ => decide_eq_true (countName_le_one h name)
  rw [record?, if_pos hall]

/-- A list is read back just if each of its elements is. -/
theorem mapM_write_iff {α β : Type} {write : α → β} {read : β → Option α} (xs : List α) :
    (xs.map write).mapM read = some xs ↔ ∀ x ∈ xs, read (write x) = some x := by
  induction xs with
  | nil => simp
  | cons x xs ih =>
    rw [List.map_cons, List.mapM_cons, List.forall_mem_cons, ← ih]
    simp only [Option.bind_eq_bind, Option.bind_eq_some_iff, Option.pure_def, Option.some.injEq,
      List.cons.injEq]
    constructor
    · rintro ⟨y, hy, ys, hys, rfl, rfl⟩
      exact ⟨hy, hys⟩
    · rintro ⟨hx, hxs⟩
      exact ⟨x, hx, xs, hxs, rfl, rfl⟩

theorem mapM_write {α β : Type} {write : α → β} {read : β → Option α}
    (hread : ∀ a, read (write a) = some a) (xs : List α) :
    (xs.map write).mapM read = some xs := (mapM_write_iff xs).2 fun x _ => hread x

section Slots

variable {α : Type} {write : α → Json} {read : Json → Option α} {ms : List (String × Json)}
  {name : String}

theorem required_of_lookup {j : Json} (h : ms.lookup name = some j) :
    (slotOf ms name).required read = read j := by
  unfold slotOf
  rw [h]
  rfl

theorem required_slotOf (hread : ∀ a, read (write a) = some a) {a : α}
    (h : ms.lookup name = some (write a)) : (slotOf ms name).required read = some a :=
  (required_of_lookup h).trans (hread a)

/-- What is read back of values that are never null is not written as null. -/
theorem write_ne_null (hread : ∀ a, read (write a) = some a) (hnull : read .null = none) (a : α) :
    write a ≠ .null := by
  intro hw
  have ha := hread a
  rw [hw, hnull] at ha
  cases ha

theorem optional_given {j : Json} (h : j ≠ .null) :
    (Slot.given j).optional read = (read j).map some := by
  cases j with
  | null => exact absurd rfl h
  | _ => rfl

theorem optionalDefault_given {j : Json} (h : j ≠ .null) :
    (Slot.given j).optionalDefault read = (read j).map some := by
  cases j with
  | null => exact absurd rfl h
  | _ => rfl

/-- **An optional member is read back** just if its value is and is not written as null. -/
theorem optional_slotOf_iff {v : Option α} (h : ms.lookup name = v.map write) :
    (slotOf ms name).optional read = some v ↔
      ∀ a ∈ v, write a ≠ .null ∧ read (write a) = some a := by
  unfold slotOf
  rw [h]
  cases v with
  | none => simp [Slot.optional]
  | some a =>
    have hiff : (Slot.given (write a)).optional read = some (some a) ↔
        write a ≠ .null ∧ read (write a) = some a := by
      by_cases hw : write a = .null
      · simp [hw, Slot.optional]
      · simp [optional_given hw, hw]
    simpa using hiff

/-- An optional member, of a type that is not written as null. -/
theorem optional_slotOf (hread : ∀ a, read (write a) = some a) (hnull : read .null = none)
    {v : Option α} (h : ms.lookup name = v.map write) :
    (slotOf ms name).optional read = some v :=
  (optional_slotOf_iff h).2 fun a _ => ⟨write_ne_null hread hnull a, hread a⟩

theorem default_slotOf (hread : ∀ a, read (write a) = some a) (value : α) {a : α}
    (h : ms.lookup name = some (write a)) : (slotOf ms name).default value read = some a := by
  unfold slotOf
  rw [h]
  exact hread a

/-- A member that is written as null if it is unset. -/
theorem optionalDefault_slotOf (hread : ∀ a, read (write a) = some a) (hnull : read .null = none)
    {v : Option α} (h : ms.lookup name = some (ofOption write v)) :
    (slotOf ms name).optionalDefault read = some v := by
  unfold slotOf
  rw [h]
  cases v with
  | none => rfl
  | some a =>
    rw [ofOption, optionalDefault_given (write_ne_null hread hnull a), hread a]
    rfl

theorem listOf?_list_iff (xs : List α) :
    listOf? read (list write xs) = some xs ↔ ∀ x ∈ xs, read (write x) = some x :=
  mapM_write_iff xs

theorem listOf?_list (hread : ∀ a, read (write a) = some a) (xs : List α) :
    listOf? read (list write xs) = some xs := mapM_write hread xs

/-- A list that is left out if it is empty. -/
theorem defaultList_slotOf (hread : ∀ a, read (write a) = some a) {xs : List α}
    (h : ms.lookup name = listUnlessEmpty write xs) :
    (slotOf ms name).default [] (listOf? read) = some xs := by
  unfold slotOf
  rw [h]
  cases xs with
  | nil => rfl
  | cons x xs => exact listOf?_list hread (x :: xs)

theorem slotOf_cons_self (j : Json) : slotOf ((name, j) :: ms) name = .given j := by
  rw [slotOf, List.lookup_cons_self]

theorem slotOf_cons_of_ne {other : String} (h : other ≠ name) (j : Json) :
    slotOf ((other, j) :: ms) name = slotOf ms name := by
  rw [slotOf, lookup_cons_of_ne h]
  rfl

theorem slotOf_of_not_mem (h : name ∉ ms.map (·.1)) : slotOf ms name = .absent := by
  rw [slotOf, lookup_eq_none_of_not_mem h]

/-- Of members without repetitions the last of a name is the only one. -/
theorem loose?_eq (h : (ms.map (·.1)).Nodup) :
    loose? name read ms = (slotOf ms name).optional read := by
  induction ms with
  | nil => rfl
  | cons m rest ih =>
    obtain ⟨other, j⟩ := m
    rw [List.map_cons, List.nodup_cons] at h
    rw [loose?, ih h.2, Option.bind_eq_bind]
    by_cases ho : other = name
    · subst ho
      have hany : (rest.any fun m => m.1 == other) = false := by
        rw [List.any_eq_false]
        intro m hm hc
        have hm' : m.1 ∈ rest.map (·.1) := List.mem_map_of_mem hm
        exact h.1 (eq_of_beq hc ▸ hm')
      rw [slotOf_of_not_mem h.1, slotOf_cons_self, hany]
      simp [Slot.optional]
    · rw [slotOf_cons_of_ne ho]
      simp [ho]

/-- A member of an object in which members may be repeated, and this one is not. -/
theorem loose?_written (hn : (ms.map (·.1)).Nodup) (hread : ∀ a, read (write a) = some a)
    (hnull : read .null = none) {v : Option α} (h : ms.lookup name = v.map write) :
    loose? name read ms = some v := by
  rw [loose?_eq hn]
  exact optional_slotOf hread hnull h

end Slots

section Written

variable {α : Type} {ms : List (String × Option Json)} {declared : List String} {v : Option α}

/-- **Reading a record that was written**, whose names are the `tags` and then the declared ones:
each member is looked up in what was written. -/
theorem bind_record?_fields (tags : List String) {f : Record → Option α}
    (hn : ms.map (·.1) = tags ++ declared) (hd : (tags ++ declared).Nodup)
    (h : ∀ written : List (String × Json), (∀ k, written.lookup k = (ms.lookup k).join) →
      f (slotOf written) = v) :
    ((fields ms).record? declared).bind f = v := by
  have hnodup : (ms.map (·.1)).Nodup := hn ▸ hd
  rw [fields_eq, record?_obj (nodup_present hnodup), Option.bind_some]
  exact h _ (lookup_present hnodup)

/-- The same of an object in which members may be repeated. -/
theorem bind_members?_fields {P : Option α → Prop} {f : List (String × Json) → Option α}
    (names : List String) (hn : ms.map (·.1) = names) (hd : names.Nodup)
    (h : ∀ written : List (String × Json), (written.map (·.1)).Nodup →
      (∀ k, written.lookup k = (ms.lookup k).join) → P (f written)) :
    P (((fields ms).members?).bind f) := by
  have hnodup : (ms.map (·.1)).Nodup := hn ▸ hd
  rw [fields_eq, members?, Option.bind_some]
  exact h _ (nodup_present hnodup) (lookup_present hnodup)

end Written

end ClusterKeeper.Json
