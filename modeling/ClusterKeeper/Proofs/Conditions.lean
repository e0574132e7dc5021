import ClusterKeeper.Cluster.Basic
import Mathlib.Data.List.Nodup

/-!
# Setting conditions

A condition that is set takes the place of the first of its type, or stands at the end if there is
none. The others stay where they are.

* `types_put_of_mem`, `put_of_not_mem`: setting a condition of a type that is there, and of one that
  is not.
* `nodup_types_put`: types that are distinct stay distinct.
* `filter_put_of_ne`, `filter_put`: the conditions of other types, and those of its own.
* `put_eq_self`, `first?_put`: only a new status or reason counts as news.
* `readyReason?_setReady`: the Ready condition that is set is the one that shows.
* `conditions_settled`: what an observed database sets.
-/

namespace ClusterKeeper

theorem Reason.parse?_text (r : Reason) : parse? r.text = some r := by
  cases r <;> decide

/-- A reason is read from no other text than its own. -/
theorem Reason.parse?_eq_some_iff {s : String} {r : Reason} : parse? s = some r ↔ s = r.text := by
  constructor
  · intro h
    unfold parse? at h
    split at h
    · next hs => cases h; exact hs
    split at h
    · next hs => cases h; exact hs
    split at h
    · next hs => cases h; exact hs
    split at h
    · next hs => cases h; exact hs
    cases h
  · rintro rfl
    exact parse?_text r

namespace Condition

variable {c : Condition} {cs : List Condition}

/-- **A condition of a type that is there** leaves every type where it is. -/
theorem types_put_of_mem (h : c.type ∈ cs.map type) : (c.put cs).map type = cs.map type := by
  induction cs with
  | nil => cases h
  | cons d cs ih =>
    rw [put]
    by_cases ht : d.type = c.type
    · rw [if_pos ht]
      split
      · rw [List.map_cons, List.map_cons, ht]
      · rfl
    · have hrest : c.type ∈ cs.map type :=
        (List.mem_cons.1 h).resolve_left fun hc => ht hc.symm
      rw [if_neg ht, List.map_cons, List.map_cons, ih hrest]

/-- **A condition of a new type** is appended. -/
theorem put_of_not_mem (h : c.type ∉ cs.map type) : c.put cs = cs ++ [c] := by
  induction cs with
  | nil => rfl
  | cons d cs ih =>
    rw [List.map_cons, List.mem_cons, not_or] at h
    rw [put, if_neg fun ht => h.1 ht.symm, ih h.2, List.cons_append]

/-- Types that are distinct stay distinct. -/
theorem nodup_types_put (h : (cs.map type).Nodup) : ((c.put cs).map type).Nodup := by
  by_cases hc : c.type ∈ cs.map type
  · rw [types_put_of_mem hc]
    exact h
  · rw [put_of_not_mem hc, List.map_append, List.map_singleton, ← List.concat_eq_append]
    exact h.concat hc

/-- **The conditions of other types** stay, in their order. -/
theorem filter_put_of_ne (c : Condition) (cs : List Condition) :
    (c.put cs).filter (fun d => d.type ≠ c.type) = cs.filter fun d => d.type ≠ c.type := by
  induction cs with
  | nil => simp [put]
  | cons d cs ih =>
    rw [put]
    by_cases ht : d.type = c.type
    · rw [if_pos ht]
      split
      · simp [ht]
      · rfl
    · rw [if_neg ht, List.filter_cons, List.filter_cons, ih]

/-- Those of its own type are set as if there were no others. -/
theorem filter_put (c : Condition) (cs : List Condition) :
    (c.put cs).filter (fun d => d.type = c.type) =
      c.put (cs.filter fun d => d.type = c.type) := by
  induction cs with
  | nil => simp [put]
  | cons d cs ih =>
    rw [put]
    by_cases ht : d.type = c.type
    · rw [if_pos ht, List.filter_cons, if_pos (decide_eq_true ht), put, if_pos ht]
      split
      · simp
      · simp [ht]
    · rw [if_neg ht, List.filter_cons, List.filter_cons, ih]
      simp [ht]

/-- The first condition of a type. -/
def first? (ty : String) (cs : List Condition) : Option Condition := cs.find? fun d => d.type = ty

theorem first?_cons_of_eq {d : Condition} {ty : String} (h : d.type = ty) (cs : List Condition) :
    first? ty (d :: cs) = some d :=
  List.find?_cons_of_pos (decide_eq_true h)

theorem first?_cons_of_ne {d : Condition} {ty : String} (h : d.type ≠ ty) (cs : List Condition) :
    first? ty (d :: cs) = first? ty cs :=
  List.find?_cons_of_neg (by simpa using h)

/-- **A condition that says nothing new**, by its status and reason, leaves the conditions as they
are. -/
theorem put_eq_self {d : Condition} (hfirst : first? c.type cs = some d)
    (hstatus : d.status = c.status) (hreason : d.reason = c.reason) : c.put cs = cs := by
  induction cs with
  | nil => cases hfirst
  | cons e cs ih =>
    rw [put]
    by_cases ht : e.type = c.type
    · rw [first?_cons_of_eq ht] at hfirst
      cases hfirst
      rw [if_pos ht, if_neg fun hnew => hnew.elim (absurd hstatus) (absurd hreason)]
    · rw [first?_cons_of_ne ht] at hfirst
      rw [if_neg ht, ih hfirst]

/-- **A condition that says something new** is the first of its type from then on. -/
theorem first?_put (hnew : ∀ d, first? c.type cs = some d →
    ¬ (d.status = c.status ∧ d.reason = c.reason)) :
    first? c.type (c.put cs) = some c := by
  induction cs with
  | nil => exact first?_cons_of_eq rfl []
  | cons e cs ih =>
    rw [put]
    by_cases ht : e.type = c.type
    · have hdiffers : e.status ≠ c.status ∨ e.reason ≠ c.reason :=
        not_and_or.1 (hnew e (first?_cons_of_eq ht cs))
      rw [if_pos ht, if_pos hdiffers]
      exact first?_cons_of_eq rfl cs
    · rw [first?_cons_of_ne ht] at hnew
      rw [if_neg ht, first?_cons_of_ne ht, ih hnew]

/-- Either way the first of its type has its reason. -/
theorem exists_first?_put (c : Condition) (cs : List Condition) :
    ∃ d, first? c.type (c.put cs) = some d ∧ d.reason = c.reason := by
  by_cases hnew : ∀ d, first? c.type cs = some d → ¬ (d.status = c.status ∧ d.reason = c.reason)
  · exact ⟨c, first?_put hnew, rfl⟩
  · simp only [not_forall, not_not] at hnew
    obtain ⟨d, hfirst, hstatus, hreason⟩ := hnew
    rw [put_eq_self hfirst hstatus hreason]
    exact ⟨d, hfirst, hreason⟩

end Condition

/-- The Ready condition that is set is the one that shows. -/
theorem Status.readyReason?_setCondition (s : Status) (r : Reason) (now : Instant) :
    (s.setCondition (r.condition now)).readyReason? = some r := by
  obtain ⟨first, hput, hreason⟩ := Condition.exists_first?_put (r.condition now) s.conditions
  have hfirst : (s.setCondition (r.condition now)).conditions.find?
      (fun d => d.type = Condition.readyType) = some first := hput
  unfold Status.readyReason?
  rw [hfirst, Option.bind_eq_bind, Option.bind_some, hreason, Option.bind_eq_bind,
    show (r.condition now).reason = some r.text from rfl, Option.bind_some]
  exact Reason.parse?_text r

/-- **What a status says** is the reason of its first Ready condition, later ones aside. -/
theorem Status.readyReason?_eq_some_iff {s : Status} {r : Reason} : s.readyReason? = some r ↔
    ∃ first, s.conditions.find? (fun d => d.type = "Ready") = some first ∧
      first.reason = some r.text := by
  have hready : s.readyReason? = (s.conditions.find? fun d => d.type = "Ready").bind fun first =>
      first.reason.bind Reason.parse? := rfl
  rw [hready, Option.bind_eq_some_iff]
  refine exists_congr fun first => and_congr_right fun _ => ?_
  rw [Option.bind_eq_some_iff]
  constructor
  · rintro ⟨text, htext, hparse⟩
    rw [htext, Reason.parse?_eq_some_iff.1 hparse]
  · intro htext
    exact ⟨r.text, htext, Reason.parse?_text r⟩

namespace Cluster

/-- The conditions in the status, none if it is unset. -/
def conditions (c : Cluster) : List Condition := (c.status.getD {}).conditions

theorem conditions_setCondition (c : Cluster) (d : Condition) :
    (c.setCondition d).conditions = d.put c.conditions := rfl

theorem readyReason?_setReady (c : Cluster) (r : Reason) (now : Instant) :
    (c.setReady r now).readyReason? = some r :=
  Status.readyReason?_setCondition _ r now

theorem readyReason?_of_status {c : Cluster} {s : Status} (h : c.status = some s) :
    c.readyReason? = s.readyReason? := by
  unfold readyReason?
  rw [h]
  rfl

/-- An observed cluster has a status. -/
theorem exists_status_settled (c : Cluster) (db : Database) (now : Instant) :
    ∃ status, ((c.observed db).settleStatus now).status = some status := by
  unfold settleStatus
  split
  · exact ⟨_, rfl⟩
  · exact ⟨_, rfl⟩

/-- Recording a remote status sets the Ready condition that it calls for, or nothing. -/
theorem conditions_settleStatus (c : Cluster) (now : Instant) :
    (c.settleStatus now).conditions =
      c.remoteReason?.elim c.conditions fun r => (r.condition now).put c.conditions := by
  unfold settleStatus
  cases c.remoteReason? with
  | none => rfl
  | some r => exact conditions_setCondition c _

/-- What counts of an observed database is its status. -/
theorem remoteReason?_observed (c : Cluster) (db : Database) :
    (c.observed db).remoteReason? = Reason.ofRemoteStatus? db.status := by
  have hstatus : (c.observed db).remoteReason? =
      (Parameters.nonEmpty db.status).bind Reason.ofRemoteStatus? := rfl
  rw [hstatus, Parameters.nonEmpty]
  split
  · rename_i hempty
    rw [hempty]
    decide
  · rfl

/-- **An observed database** sets the Ready condition that its status calls for, or nothing. -/
theorem conditions_settled (c : Cluster) (db : Database) (now : Instant) :
    ((c.observed db).settleStatus now).conditions =
      (Reason.ofRemoteStatus? db.status).elim c.conditions
        fun r => (r.condition now).put c.conditions := by
  rw [conditions_settleStatus, remoteReason?_observed]
  rfl

/-- An observation leaves what the status says, unless the remote status calls for something. -/
theorem readyReason?_settled (c : Cluster) (db : Database) (now : Instant) :
    ((c.observed db).settleStatus now).readyReason? =
      (Reason.ofRemoteStatus? db.status).or c.readyReason? := by
  have hobserved : (c.observed db).readyReason? = c.readyReason? := by
    unfold observed readyReason?
    cases c.status <;> rfl
  unfold settleStatus
  rw [remoteReason?_observed]
  cases Reason.ofRemoteStatus? db.status with
  | none => exact hobserved
  | some r => exact readyReason?_setReady _ r now

end Cluster

namespace Condition.Sample

theorem isSome_second (s : Fin 60) : (Instant.of? 2024 1 1 0 0 s 0).isSome = true := by
  revert s
  decide

/-- A second of the first minute of a year, for samples of what is said at several times. -/
def second (s : Fin 60) : Instant := (Instant.of? 2024 1 1 0 0 s 0).get (isSome_second s)

end Condition.Sample

end ClusterKeeper
