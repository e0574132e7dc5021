import ClusterKeeper.Json.Basic

/-!
# Dictionaries

A dictionary holds its entries in the order in which their keys were first
inserted, each key once.

* `get?_insert_self`, `get?_insert_of_ne`: an insertion changes one entry.
* `Dict.ofEntries`: of entries with one key the last counts.
-/

namespace ClusterKeeper

/-- Entries under distinct keys. -/
structure Dict (α : Type) where
  entries : List (String × α)
  distinct : (entries.map (·.1)).Nodup
  deriving DecidableEq, Repr

namespace Dict

variable {α β : Type}

/-- The dictionary without entries. -/
def empty : Dict α := ⟨[], List.nodup_nil⟩

instance : Inhabited (Dict α) := ⟨empty⟩

/-- Put `a` in the place of the entry under `key`, or at the end. -/
def put (key : String) (a : α) : List (String × α) → List (String × α)
  | [] => [(key, a)]
  | (k, b) :: rest => if k = key then (key, a) :: rest else (k, b) :: put key a rest

theorem mem_keys_put {key k : String} {a : α} {es : List (String × α)} :
    k ∈ (put key a es).map (·.1) ↔ k = key ∨ k ∈ es.map (·.1) := by
  induction es with
  | nil => simp [put]
  | cons e rest ih =>
    by_cases h : e.1 = key
    · simp [put, h]
    · simp only [put, h, if_false, List.map_cons, List.mem_cons, ih]
      grind

theorem nodup_keys_put {key : String} {a : α} {es : List (String × α)}
    (h : (es.map (·.1)).Nodup) : ((put key a es).map (·.1)).Nodup := by
  induction es with
  | nil => simp [put]
  | cons e rest ih =>
    simp only [List.map_cons, List.nodup_cons] at h
    by_cases hk : e.1 = key
    · simp only [put, hk, if_true, List.map_cons, List.nodup_cons]
      exact ⟨hk ▸ h.1, h.2⟩
    · simp only [put, hk, if_false, List.map_cons, List.nodup_cons, mem_keys_put, false_or]
      exact ⟨h.1, ih h.2⟩

/-- Set the entry under `key`. -/
def insert (d : Dict α) (key : String) (a : α) : Dict α :=
  ⟨put key a d.entries, nodup_keys_put d.distinct⟩

/-- The entry under `key`. -/
def get? (d : Dict α) (key : String) : Option α := d.entries.lookup key

/-- Whether there is no entry. -/
def isEmpty (d : Dict α) : Bool := d.entries.isEmpty

/-- The dictionary of the entries; of several with one key the last counts. -/
def ofEntries (es : List (String × α)) : Dict α :=
  es.foldl (fun d e => d.insert e.1 e.2) empty

/-- Change every value. -/
def map (f : α → β) (d : Dict α) : Dict β :=
  ⟨d.entries.map fun e => (e.1, f e.2), by simpa [List.map_map, Function.comp_def] using d.distinct⟩

theorem lookup_put_self {key : String} {a : α} (es : List (String × α)) :
    (put key a es).lookup key = some a := by
  induction es with
  | nil => simp [put]
  | cons e rest ih =>
    obtain ⟨k, b⟩ := e
    by_cases h : k = key
    · simp [put, h]
    · have h' : (key == k) = false := by simpa using fun hc => h hc.symm
      rw [put, if_neg h, List.lookup_cons, h']
      exact ih

theorem lookup_put_of_ne {key k : String} {a : α} (hk : k ≠ key) (es : List (String × α)) :
    (put key a es).lookup k = es.lookup k := by
  have hk' : (k == key) = false := by simpa using hk
  induction es with
  | nil => rw [put, List.lookup_cons, hk']
  | cons e rest ih =>
    obtain ⟨k', b⟩ := e
    by_cases h : k' = key
    · subst h
      rw [put, if_pos rfl, List.lookup_cons, List.lookup_cons, hk']
    · rw [put, if_neg h, List.lookup_cons, List.lookup_cons, ih]

@[simp] theorem get?_insert_self (d : Dict α) (key : String) (a : α) :
    (d.insert key a).get? key = some a := lookup_put_self d.entries

theorem get?_insert_of_ne (d : Dict α) {key k : String} (a : α) (h : k ≠ key) :
    (d.insert key a).get? k = d.get? k := lookup_put_of_ne h d.entries

@[simp] theorem get?_empty (key : String) : (empty : Dict α).get? key = none := rfl

/-- An object with a member for each entry. -/
def toJson (write : α → Json) (d : Dict α) : Json := .obj (d.map write).entries

/-- The entries of an object, each of which `read` reads. -/
def ofJson? (read : Json → Option α) : Json → Option (Dict α)
  | .obj ms => (ms.mapM fun m => (read m.2).map fun a => (m.1, a)).map ofEntries
  | _ => none

end Dict

end ClusterKeeper
