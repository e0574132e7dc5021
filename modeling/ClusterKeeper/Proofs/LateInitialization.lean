import ClusterKeeper.Cluster.Parameters
import Mathlib.Data.List.Basic

/-!
# Parameters that are taken from databases

A parameter that is unset is taken from the first database that has it, and stays from then on.

* `lateInitialize_eq_self_iff`: when a database has nothing to set.
* `unset_lateInitialize_lt`: parameters that are taken are unset no more.
* `lateInitialize_foldl`: what databases do not set any more, they never set again.
* `foldl_lateInitialize`: the parameters after any number of databases.
* `changes_add_unset_le`: each database that changes anything fills one of three places.
* `lateInitialize_first_wins`: so the first database with a value wins, and few change anything.
-/

namespace ClusterKeeper.Parameters

variable {p : Parameters} {db db' : Database} {seen : List Database}

/-! ## One database -/

/-- How many of the parameters that a database can set are unset. -/
def unset (p : Parameters) : Nat :=
  p.version.isNone.toNat + p.privateNetworkUuid.isNone.toNat + p.tags.isEmpty.toNat

theorem unset_le_three (p : Parameters) : p.unset ≤ 3 := by
  have hv := Bool.toNat_le p.version.isNone
  have hn := Bool.toNat_le p.privateNetworkUuid.isNone
  have ht := Bool.toNat_le p.tags.isEmpty
  unfold unset
  omega

/-- A parameter that is taken is set, or else stays as it is. -/
theorem isNone_orElse (x y : Option String) : (x <|> y).isNone.toNat ≤ x.isNone.toNat ∧
    ((x <|> y).isNone.toNat = x.isNone.toNat → (x <|> y) = x) := by
  cases x <;> cases y <;> simp

theorem isEmpty_ite (xs ys : List String) :
    (if xs.isEmpty then ys else xs).isEmpty.toNat ≤ xs.isEmpty.toNat ∧
      ((if xs.isEmpty then ys else xs).isEmpty.toNat = xs.isEmpty.toNat →
        (if xs.isEmpty then ys else xs) = xs) := by
  cases xs <;> cases ys <;> simp

/-- **Parameters that are taken** are unset no more. -/
theorem unset_lateInitialize_lt {p : Parameters} {db : Database} (h : p.lateInitialize db ≠ p) :
    (p.lateInitialize db).unset < p.unset := by
  obtain ⟨hv, hv'⟩ := isNone_orElse p.version (nonEmpty db.engine)
  obtain ⟨hn, hn'⟩ := isNone_orElse p.privateNetworkUuid (nonEmpty db.privateNetworkUuid)
  obtain ⟨ht, ht'⟩ := isEmpty_ite p.tags db.tags
  unfold lateInitialize at h ⊢
  unfold unset
  -- if no place were filled, all three would be as they were
  by_contra hlt
  simp only at hlt
  rw [hv' (by omega), hn' (by omega), ht' (by omega)] at h
  exact h rfl

/-- What a text sets is nothing just if it is empty or there is something already. -/
theorem orElse_nonEmpty_eq_iff (x : Option String) (s : String) :
    (x <|> nonEmpty s) = x ↔ x.isSome = true ∨ s = "" := by
  cases x with
  | some value => simp
  | none =>
    by_cases hs : s = ""
    · simp [nonEmpty, hs]
    · simp [nonEmpty, hs]

/-- **A database has nothing to set** where all that it has is set. -/
theorem lateInitialize_eq_self_iff : p.lateInitialize db = p ↔
    (p.version.isSome = true ∨ db.engine = "") ∧
      (p.privateNetworkUuid.isSome = true ∨ db.privateNetworkUuid = "") ∧
        (p.tags ≠ [] ∨ db.tags = []) := by
  have htags : (if p.tags.isEmpty then db.tags else p.tags) = p.tags ↔
      p.tags ≠ [] ∨ db.tags = [] := by
    cases p.tags with
    | nil => simp
    | cons tag tags => simp
  rw [← orElse_nonEmpty_eq_iff, ← orElse_nonEmpty_eq_iff, ← htags]
  constructor
  · intro h
    exact ⟨congrArg version h, congrArg privateNetworkUuid h, congrArg tags h⟩
  · rintro ⟨hv, hn, ht⟩
    unfold lateInitialize
    rw [hv, hn, ht]

/-- A database has nothing to set where it has set all already. -/
theorem lateInitialize_lateInitialize (p : Parameters) (db : Database) :
    (p.lateInitialize db).lateInitialize db = p.lateInitialize db := by
  have hoption (x y : Option String) : ((x <|> y) <|> y) = (x <|> y) := by
    cases x <;> cases y <;> rfl
  have htags : (if (if p.tags.isEmpty then db.tags else p.tags).isEmpty then db.tags
      else if p.tags.isEmpty then db.tags else p.tags) =
        if p.tags.isEmpty then db.tags else p.tags := by
    cases p.tags <;> simp
  unfold lateInitialize
  simp only
  rw [hoption, hoption, htags]

/-! ## Databases in turn -/

/-- **What is set stays set**: a database with nothing to set has nothing to set later either. -/
theorem lateInitialize_stays (h : p.lateInitialize db = p) :
    (p.lateInitialize db').lateInitialize db = p.lateInitialize db' := by
  rw [lateInitialize_eq_self_iff] at h ⊢
  have hoption {x y : Option String} (hx : x.isSome = true) : (x <|> y).isSome = true := by
    cases x with
    | none => cases hx
    | some value => rfl
  obtain ⟨hv, hn, ht⟩ := h
  refine ⟨hv.imp_left hoption, hn.imp_left hoption, ht.imp_left fun hp => ?_⟩
  have htags : (p.lateInitialize db').tags = p.tags := if_neg (by simpa using hp)
  rw [htags]
  exact hp

theorem lateInitialize_foldl (h : p.lateInitialize db = p) :
    (seen.foldl lateInitialize p).lateInitialize db = seen.foldl lateInitialize p := by
  induction seen generalizing p with
  | nil => exact h
  | cons db' seen ih => exact ih (lateInitialize_stays h)

/-- A database that was taken from has nothing to set any more. -/
theorem lateInitialize_of_mem (h : db ∈ seen) :
    (seen.foldl lateInitialize p).lateInitialize db = seen.foldl lateInitialize p := by
  obtain ⟨before, after, rfl⟩ := List.append_of_mem h
  rw [List.foldl_append, List.foldl_cons]
  exact lateInitialize_foldl (lateInitialize_lateInitialize _ db)

/-- **The parameters after any number of databases**: what was set, or else the first value that
one of them has. -/
theorem foldl_lateInitialize (p : Parameters) (seen : List Database) :
    seen.foldl lateInitialize p = { p with
      version := p.version <|> (seen.map Database.engine).find? (· ≠ "")
      privateNetworkUuid :=
        p.privateNetworkUuid <|> (seen.map Database.privateNetworkUuid).find? (· ≠ "")
      tags :=
        if p.tags = [] then ((seen.map Database.tags).find? (· ≠ [])).getD [] else p.tags } := by
  -- taking the first value and then the others is looking for one among them all
  have hoption (x : Option String) (s : String) (ss : List String) :
      ((x <|> nonEmpty s) <|> ss.find? (· ≠ "")) = (x <|> (s :: ss).find? (· ≠ "")) := by
    by_cases hs : s = ""
    · cases x <;> simp [nonEmpty, hs]
    · cases x <;> simp [nonEmpty, hs]
  have htags (xs ys : List String) (yss : List (List String)) :
      (if (if xs.isEmpty then ys else xs) = [] then (yss.find? (· ≠ [])).getD []
        else if xs.isEmpty then ys else xs) =
          if xs = [] then ((ys :: yss).find? (· ≠ [])).getD [] else xs := by
    cases xs <;> cases ys <;> simp
  induction seen generalizing p with
  | nil =>
    have hp : (if p.tags = [] then [] else p.tags) = p.tags := ite_eq_right_iff.2 Eq.symm
    simp [hp]
  | cons db seen ih =>
    rw [List.foldl_cons, ih]
    simp only [lateInitialize, List.map_cons]
    rw [hoption, hoption]
    congr 1
    exact htags _ _ _

/-- How many of some databases change anything when they are taken from in turn. -/
def changes (p : Parameters) : List Database → Nat
  | [] => 0
  | db :: later =>
    (if p.lateInitialize db = p then 0 else 1) + changes (p.lateInitialize db) later

/-- **Each change fills a place** that was empty. -/
theorem changes_add_unset_le (p : Parameters) (seen : List Database) :
    changes p seen + (seen.foldl lateInitialize p).unset ≤ p.unset := by
  induction seen generalizing p with
  | nil => simp [changes]
  | cons db seen ih =>
    have hlater := ih (p.lateInitialize db)
    rw [changes, List.foldl_cons]
    by_cases h : p.lateInitialize db = p
    · rw [if_pos h]
      rw [h] at hlater ⊢
      omega
    · have hless := unset_lateInitialize_lt h
      rw [if_neg h]
      omega

/-- **The first value wins.** A parameter that is set, even to an empty text, stays as it is. One
that is unset has in the end the first value that is not empty among those that the databases have
for it: the engine for the version, the private network, and the tags. No other parameter changes.
Whatever their number, at most three of the databases change anything, and none of them would
change anything a second time. -/
theorem lateInitialize_first_wins (p : Parameters) (seen : List Database) :
    seen.foldl lateInitialize p = { p with
      version := p.version <|> (seen.map Database.engine).find? (· ≠ "")
      privateNetworkUuid :=
        p.privateNetworkUuid <|> (seen.map Database.privateNetworkUuid).find? (· ≠ "")
      tags :=
        if p.tags = [] then ((seen.map Database.tags).find? (· ≠ [])).getD [] else p.tags } ∧
    changes p seen ≤ 3 ∧
    ∀ db ∈ seen, (seen.foldl lateInitialize p).lateInitialize db = seen.foldl lateInitialize p := by
  refine ⟨foldl_lateInitialize p seen, ?_, fun db => lateInitialize_of_mem⟩
  have hchanges := changes_add_unset_le p seen
  have hunset := unset_le_three p
  omega

/-- Of two databases with an engine the first gives the version, and the second never changes it. -/
theorem lateInitialize_first_wins_twice :
    let p : Parameters :=
      { numNodes := 1, size := "s", region := "nyc1", privateNetworkUuid := some "" }
    let seen : List Database := [{ id := "a", engine := "pg", privateNetworkUuid := "n" },
      { id := "b", engine := "mysql" }]
    (seen.foldl lateInitialize p).version = some "pg" ∧
      (seen.foldl lateInitialize p).privateNetworkUuid = some "" ∧
        ∀ db ∈ seen,
          (seen.foldl lateInitialize p).lateInitialize db = seen.foldl lateInitialize p := by
  intro p seen
  obtain ⟨hfold, -, hagain⟩ := lateInitialize_first_wins p seen
  have hversion := congrArg version hfold
  have hnetwork := congrArg privateNetworkUuid hfold
  exact ⟨hversion.trans (by decide), hnetwork.trans (by decide), hagain⟩

end ClusterKeeper.Parameters
