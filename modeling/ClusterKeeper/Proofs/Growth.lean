import ClusterKeeper.Proofs.Decoding
import ClusterKeeper.Proofs.JsonText
import ClusterKeeper.Proofs.ReadBack
import Mathlib.Logic.Relation

/-!
# Answers that grow

The remote API describes more of a database than is read, in whatever order. What is read does not
depend on it: the members of an object may change places, and members of other names may come and
hold anything, in the envelope, in the database and in its connections.

* `Json.Altered`: one such change of a value that is read as a record, and how its members may
  change in turn.
* `Json.lookup_of_perm`, `Json.bind_record?_of_altered`: what is read of the declared members.
* `Connection.ofJson?_of_altered`, `Database.ofJson?_of_altered`,
  `DatabaseCall.envelope?_of_altered`: one change, for each depth that it may be made at.
* `DatabaseCall.read_through_growth`: any number of them.
-/

namespace ClusterKeeper

namespace Json

/-- **A value that is read as a record is altered** in one place. In an object members change
places, or one comes whose name is not declared. Or, in an object or in an array, the value of a
declared member changes as `inner` allows under its name. -/
inductive Altered (names : List String) (inner : String → Json → Json → Prop) : Json → Json → Prop
  | permuted {ms ms' : List (String × Json)} (h : ms.Perm ms') :
      Altered names inner (.obj ms) (.obj ms')
  | inserted (before behind : List (String × Json)) {name : String} (h : name ∉ names) (j : Json) :
      Altered names inner (.obj (before ++ behind)) (.obj (before ++ (name, j) :: behind))
  | within (before behind : List (String × Json)) {name : String} {j j' : Json}
      (h : inner name j j') :
      Altered names inner (.obj (before ++ (name, j) :: behind))
        (.obj (before ++ (name, j') :: behind))
  | element (before behind : List Json) {name : String} {j j' : Json}
      (hname : names[before.length]? = some name) (h : inner name j j') :
      Altered names inner (.arr (before ++ j :: behind)) (.arr (before ++ j' :: behind))

/-- **What is held for a member** is the same, or has changed as `R` allows. -/
inductive Alike (R : Json → Json → Prop) : Slot → Slot → Prop
  | same (s : Slot) : Alike R s s
  | changed {j j' : Json} (h : R j j') : Alike R (.given j) (.given j')

variable {names : List String} {inner : String → Json → Json → Prop} {name k : String}
  {j j' : Json} {ms ms' : List (String × Json)}

/-! ## Objects -/

theorem countName_cons_of_ne (h : k ≠ name) (j : Json) (ms : List (String × Json)) :
    countName name ((k, j) :: ms) = countName name ms :=
  List.countP_cons_of_neg (by simpa using h)

/-- **Members that change places** are looked up as before. -/
theorem lookup_of_perm (h : ms.Perm ms') (hone : countName name ms ≤ 1) :
    ms'.lookup name = ms.lookup name := by
  have hone' : countName name ms' ≤ 1 := (h.countP_eq _).symm.trans_le hone
  refine Option.ext fun j => ?_
  rw [lookup_eq_some_iff_mem hone, lookup_eq_some_iff_mem hone', h.mem_iff]

theorem alike_of_lookup {R : Json → Json → Prop} (h : ms'.lookup name = ms.lookup name) :
    Alike R (slotOf ms name) (slotOf ms' name) := by
  unfold slotOf
  rw [h]
  exact .same _

/-- A value that changes within an object changes what is held for its name, if it was read. -/
theorem alike_of_within {before behind : List (String × Json)} (h : inner k j j') (name : String) :
    Alike (inner name) (slotOf (before ++ (k, j) :: behind) name)
      (slotOf (before ++ (k, j') :: behind) name) := by
  unfold slotOf
  rw [List.lookup_append, List.lookup_append]
  cases before.lookup name with
  | some value => exact .same _
  | none =>
    rw [Option.none_or, Option.none_or]
    by_cases hk : k = name
    · subst hk
      rw [List.lookup_cons_self, List.lookup_cons_self]
      exact .changed h
    · rw [lookup_cons_of_ne hk, lookup_cons_of_ne hk]
      exact .same _

/-- Objects in which the declared names occur as often are read or refused alike. -/
theorem rel_record?_obj (hcount : ∀ name, name ∈ names → countName name ms' = countName name ms)
    (hslot : ∀ name, name ∈ names → countName name ms ≤ 1 →
      Alike (inner name) (slotOf ms name) (slotOf ms' name)) :
    Option.Rel (fun r r' : Record => ∀ name, name ∈ names → Alike (inner name) (r name) (r' name))
      ((obj ms).record? names) ((obj ms').record? names) := by
  have hall : (names.all fun name => countName name ms' ≤ 1) =
      names.all fun name => countName name ms ≤ 1 := by
    rw [Bool.eq_iff_iff, List.all_eq_true, List.all_eq_true]
    exact forall₂_congr fun name hname => by rw [hcount name hname]
  rw [record?, record?, hall]
  split
  · rename_i hone
    rw [List.all_eq_true] at hone
    exact .some fun name hname => hslot name hname (of_decide_eq_true (hone name hname))
  · exact .none

/-! ## Arrays -/

theorem alike_slotAt {before behind : List Json} (hname : names[before.length]? = some k)
    (h : inner k j j') (name : String) :
    Alike (inner name) (slotAt names (before ++ j :: behind) name)
      (slotAt names (before ++ j' :: behind) name) := by
  induction before generalizing names with
  | nil =>
    cases names with
    | nil => cases hname
    | cons declared names =>
      obtain rfl : declared = k := Option.some.inj hname
      rw [List.nil_append, List.nil_append, slotAt, slotAt]
      by_cases hk : name = declared
      · rw [if_pos hk, if_pos hk, hk]
        exact .changed h
      · rw [if_neg hk, if_neg hk]
        exact .same _
  | cons value before ih =>
    cases names with
    | nil => cases hname
    | cons declared names =>
      rw [List.cons_append, List.cons_append, slotAt, slotAt]
      by_cases hk : name = declared
      · rw [if_pos hk, if_pos hk]
        exact .same _
      · rw [if_neg hk, if_neg hk]
        exact ih (by simpa using hname)

/-! ## Records -/

/-- **One change of a record** leaves it refused, or what it holds for the declared names alike. -/
theorem rel_record?_of_altered (h : Altered names inner j j') :
    Option.Rel (fun r r' : Record => ∀ name, name ∈ names → Alike (inner name) (r name) (r' name))
      (j.record? names) (j'.record? names) := by
  cases h with
  | permuted h =>
    exact rel_record?_obj (fun name _ => (h.countP_eq _).symm)
      fun name _ hone => alike_of_lookup (lookup_of_perm h hone)
  | @inserted before behind k hk value =>
    -- a name that is not declared is in nobody's count and nobody's way
    have hne {name : String} (hname : name ∈ names) : k ≠ name := fun hkn => hk (hkn ▸ hname)
    refine rel_record?_obj (fun name hname => ?_) fun name hname _ => alike_of_lookup ?_
    · have hskip := countName_cons_of_ne (hne hname) value behind
      unfold countName at hskip ⊢
      rw [List.countP_append, List.countP_append, hskip]
    · rw [List.lookup_append, List.lookup_append, lookup_cons_of_ne (hne hname)]
  | @within before behind k value value' hinner =>
    -- names are counted alike whatever they hold
    refine rel_record?_obj (fun name _ => ?_) fun name _ _ => alike_of_within hinner name
    unfold countName
    rw [List.countP_append, List.countP_append, List.countP_cons, List.countP_cons]
  | @element before behind k value value' hname hinner =>
    have hlength : (before ++ value' :: behind).length = (before ++ value :: behind).length := by
      simp
    rw [record?, record?, hlength]
    split
    · exact .some fun name _ => alike_slotAt hname hinner name
    · exact .none

/-- **What is read of a record stays** if it depends on no more than what `inner` leaves alike. -/
theorem bind_record?_of_altered {α : Type} {f : Record → Option α} (h : Altered names inner j j')
    (hf : ∀ r r' : Record, (∀ name, name ∈ names → Alike (inner name) (r name) (r' name)) →
      f r' = f r) :
    (j'.record? names).bind f = (j.record? names).bind f := by
  have hrel := rel_record?_of_altered h
  generalize j.record? names = r? at hrel
  generalize j'.record? names = r'? at hrel
  cases hrel with
  | some halike => exact hf _ _ halike
  | none => rfl

theorem ne_null_of_altered (h : Altered names inner j j') : j ≠ .null ∧ j' ≠ .null := by
  cases h <;> exact ⟨nofun, nofun⟩

variable {R : Json → Json → Prop} {s s' : Slot}

theorem Alike.eq (h : Alike R s s') (hR : ∀ j j', ¬ R j j') : s' = s := by
  cases h with
  | same => rfl
  | changed h => exact absurd h (hR _ _)

/-- A member that may be null is read as before, if its value is. -/
theorem Alike.optionalDefault_eq {α : Type} {read : Json → Option α} (h : Alike R s s')
    (hR : ∀ j j', R j j' → (j ≠ .null ∧ j' ≠ .null) ∧ read j' = read j) :
    s'.optionalDefault read = s.optionalDefault read := by
  cases h with
  | same => rfl
  | changed h =>
    obtain ⟨⟨hj, hj'⟩, hread⟩ := hR _ _ h
    rw [optionalDefault_given hj, optionalDefault_given hj', hread]

end Json

/-! ## The answers of the remote API -/

namespace Connection

/-- A connection is altered, none of whose members is read as a record. -/
abbrev Altered : Json → Json → Prop := Json.Altered memberNames fun _ _ _ => False

theorem ofJson?_of_altered {j j' : Json} (h : Altered j j') : ofJson? j' = ofJson? j := by
  refine Json.bind_record?_of_altered h fun r r' halike => ?_
  have hslot (name : String) (hname : name ∈ memberNames) : r' name = r name :=
    (halike name hname).eq fun _ _ => not_false
  rw [hslot "uri" (by decide), hslot "database" (by decide), hslot "host" (by decide),
    hslot "port" (by decide), hslot "user" (by decide), hslot "password" (by decide),
    hslot "ssl" (by decide)]

end Connection

namespace Database

/-- A database is altered, or one of its connections. -/
abbrev Altered : Json → Json → Prop :=
  Json.Altered memberNames fun name j j' =>
    (name = "connection" ∨ name = "private_connection") ∧ Connection.Altered j j'

theorem ofJson?_of_altered {j j' : Json} (h : Altered j j') : ofJson? j' = ofJson? j := by
  refine Json.bind_record?_of_altered h fun r r' halike => ?_
  have hslot (name : String) (hname : name ∈ memberNames)
      (hplain : ¬ (name = "connection" ∨ name = "private_connection")) : r' name = r name :=
    (halike name hname).eq fun _ _ hinner => hplain hinner.1
  have hconnection (name : String) (hname : name ∈ memberNames) :
      (r' name).optionalDefault Connection.ofJson? =
        (r name).optionalDefault Connection.ofJson? :=
    (halike name hname).optionalDefault_eq fun _ _ hinner =>
      ⟨Json.ne_null_of_altered hinner.2, Connection.ofJson?_of_altered hinner.2⟩
  rw [hslot "id" (by decide) (by decide), hslot "name" (by decide) (by decide),
    hslot "engine" (by decide) (by decide), hslot "version" (by decide) (by decide),
    hconnection "connection" (by decide), hconnection "private_connection" (by decide),
    hslot "num_nodes" (by decide) (by decide), hslot "size" (by decide) (by decide),
    hslot "region" (by decide) (by decide), hslot "status" (by decide) (by decide),
    hslot "created_at" (by decide) (by decide),
    hslot "private_network_uuid" (by decide) (by decide), hslot "tags" (by decide) (by decide)]

end Database

namespace DatabaseCall

/-- An envelope is altered, or the database in it. -/
abbrev Altered : Json → Json → Prop :=
  Json.Altered ["database"] fun _ => Database.Altered

/-- An envelope is altered any number of times. -/
abbrev Grown : Json → Json → Prop := Relation.ReflTransGen Altered

/-- **Step.** -/
theorem envelope?_of_altered {j j' : Json} (h : Altered j j') : envelope? j' = envelope? j := by
  refine Json.bind_record?_of_altered h fun r r' halike => ?_
  exact (halike "database" List.mem_cons_self).optionalDefault_eq fun _ _ hinner =>
    ⟨Json.ne_null_of_altered hinner, Database.ofJson?_of_altered hinner⟩

/-- **Run.** -/
theorem envelope?_of_grown {j j' : Json} (h : Grown j j') : envelope? j' = envelope? j := by
  induction h with
  | refl => rfl
  | tail _ hstep ih => exact (envelope?_of_altered hstep).trans ih

/-- An envelope with a database and nothing else is read as it was written. -/
theorem envelope?_database (db : Database) :
    envelope? (.obj [("database", db.toJson)]) = some (some db) := by
  have hrecord : (Json.obj [("database", db.toJson)]).record? ["database"] =
      some (Json.slotOf [("database", db.toJson)]) :=
    Json.record?_obj (by simp) _
  unfold envelope?
  rw [hrecord, Option.bind_eq_bind, Option.bind_some, Json.slotOf_cons_self,
    Json.optionalDefault_given (Json.write_ne_null Database.ofJson?_toJson rfl db),
    Database.ofJson?_toJson]
  rfl

variable {url : Url} {r : Http.Response} {body : Bytes} {j j' : Json}

theorem opened_of_grown (h : Grown j j') (hj : Json.ofBytes? r.body = some j)
    (hj' : Json.ofBytes? body = some j') : opened { r with body } = opened r := by
  unfold opened
  simp only
  rw [hj, hj', Option.bind_some, Option.bind_some, envelope?_of_grown h]

/-- A response of success gives the same answer with a body that has grown. -/
theorem interpret_of_grown (h : Grown j j') (hs : Http.isSuccess r.status = true)
    (hj : Json.ofBytes? r.body = some j) (hj' : Json.ofBytes? body = some j')
    (call : DatabaseCall) :
    interpret url (.response { r with body }) call = interpret url (.response r) call := by
  have hopened := opened_of_grown h hj hj'
  cases call with
  | get id => simp [interpret, arrived, checked, hs, bind, Except.bind, hopened]
  | create asked => simp [interpret, arrived, checked, hs, bind, Except.bind, hopened]
  | delete id => simp [interpret, arrived, checked, hs, bind, Except.bind]

/-- **What is read is read through growth.** An envelope whose members, those of the database in it
and those of its connections change places any number of times, and come to include any members of
other names, is read as it was before, or refused as before. So whatever was written of a database
is still read as that database, and a call of the remote API that ended with success has the answer
that it had. -/
theorem read_through_growth :
    (∀ j j' : Json, Grown j j' → envelope? j' = envelope? j) ∧
    (∀ (db : Database) (j : Json), Grown (.obj [("database", db.toJson)]) j →
      envelope? j = some (some db)) ∧
    ∀ (j j' : Json) (url : Url) (r : Http.Response) (body : Bytes) (call : DatabaseCall),
      Grown j j' → Http.isSuccess r.status = true → Json.ofBytes? r.body = some j →
        Json.ofBytes? body = some j' →
          interpret url (.response { r with body }) call = interpret url (.response r) call := by
  refine ⟨fun j j' => envelope?_of_grown, fun db j h => ?_,
    fun j j' url r body call h hs hj hj' => interpret_of_grown h hs hj hj' call⟩
  rw [envelope?_of_grown h, envelope?_database]

namespace Sample

/-- A connection in an envelope, in a database whose identifier comes first. -/
def terse : Json := .obj [("database", .obj [("id", .str "a"),
  ("connection", .obj [("uri", .str "u")])])]

/-- The same with more in the connection and in the envelope, where the identifier comes last. -/
def later : Json := .obj [("links", .null), ("database", .obj [
  ("connection", .obj [("ca", .str "c"), ("uri", .str "u")]), ("id", .str "a")])]

theorem grown_terse : Grown terse later := by
  have hconnection : Altered terse (.obj [("database", .obj [("id", .str "a"),
      ("connection", .obj [("ca", .str "c"), ("uri", .str "u")])])]) :=
    .within [] [] (.within [("id", .str "a")] []
      ⟨.inl rfl, .inserted [] [("uri", .str "u")] (by decide) _⟩)
  have hdatabase : Altered _ (.obj [("database", .obj [
      ("connection", .obj [("ca", .str "c"), ("uri", .str "u")]), ("id", .str "a")])]) :=
    .within [] [] (.permuted (.swap _ _ []))
  have henvelope : Altered _ later := .inserted [] _ (by decide) .null
  exact .tail (.tail (.tail .refl hconnection) hdatabase) henvelope

/-- A value as bytes. -/
def written (j : Json) : Bytes := Utf8.encode j.render

/-- A response of success. -/
def response : Http.Response := { status := 200, body := written terse, complete := true }

theorem ofBytes?_terse : Json.ofBytes? response.body = some terse := by
  refine Json.ofBytes?_render (.obj (List.forall_mem_singleton.2 (.obj ?_)))
  rw [List.forall_mem_cons, List.forall_mem_singleton]
  exact ⟨.str _, .obj (List.forall_mem_singleton.2 (.str _))⟩

theorem ofBytes?_later : Json.ofBytes? (written later) = some later := by
  refine Json.ofBytes?_render (.obj ?_)
  rw [List.forall_mem_cons, List.forall_mem_singleton]
  refine ⟨.null, .obj ?_⟩
  rw [List.forall_mem_cons, List.forall_mem_singleton]
  refine ⟨.obj ?_, .str _⟩
  rw [List.forall_mem_cons, List.forall_mem_singleton]
  exact ⟨.str _, .str _⟩

/-- Where the response comes from. -/
def address : Url :=
  { secure := false, host := "d", port := none, path := "/", query := none, fragment := none }

end Sample

open Sample in
/-- A database is fetched as before when its envelope has grown. -/
theorem read_through_growth_later : Grown terse later ∧ envelope? later = envelope? terse ∧
    interpret address (.response { response with body := written later }) (.get "a") =
      interpret address (.response response) (.get "a") := by
  have hread := read_through_growth.1 terse later grown_terse
  have hsuccess : Http.isSuccess response.status = true := by decide
  have hfetched := read_through_growth.2.2 terse later address response (written later) (.get "a")
    grown_terse hsuccess ofBytes?_terse ofBytes?_later
  exact ⟨grown_terse, hread, hfetched⟩

end DatabaseCall

end ClusterKeeper
