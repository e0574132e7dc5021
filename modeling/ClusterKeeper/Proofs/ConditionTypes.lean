import ClusterKeeper.Proofs.Frames

/-!
# Conditions by type

The conditions of a cluster are a list that is meant as a map: a condition for each type. What the
operator does keeps it one, and where others have broken it, the Ready condition that is written
first is still the one that is read first.

* `Readied`: a cluster whose Ready condition was set, and no other, or none.
* `readied_of_observe`, `readied_of_create`, `readied_of_delete`: the verbs, whatever is answered.
* `Touched`, `nodup_types_of_touched`: types that are distinct stay so through any sequence of
  operations.
* `conditions_by_type`: and what setting a condition does to the others.
-/

namespace ClusterKeeper

open Prog

variable {session : Session} {c c' c₀ : Cluster}

/-! ## What the verbs set -/

/-- **A cluster is readied**: its Ready condition was set, or no condition was. -/
inductive Readied (c c' : Cluster) : Prop
  | kept (h : c'.conditions = c.conditions)
  | set (r : Reason) (now : Instant) (h : c'.conditions = (r.condition now).put c.conditions)

/-- What became of another cluster with the same conditions. -/
theorem Readied.of_conditions_eq {c₁ : Cluster} (h : Readied c₁ c')
    (hsame : c₁.conditions = c.conditions) : Readied c c' := by
  cases h with
  | kept h => exact .kept (h.trans hsame)
  | set r now h => exact .set r now (by rw [h, hsame])

theorem readied_settleStatus (c : Cluster) (now : Instant) : Readied c (c.settleStatus now) := by
  have hset := c.conditions_settleStatus now
  cases hreason : c.remoteReason? with
  | none =>
    rw [hreason] at hset
    exact .kept hset
  | some r =>
    rw [hreason] at hset
    exact .set r now hset

namespace Lifecycle

/-- **Observing** sets the Ready condition that the database calls for, or nothing. -/
theorem readied_of_observe (session : Session) (c : Cluster) :
    (observe session c).Ensures fun p => Readied c p.2 := by
  intro es p h
  cases Looking.of_run h with
  | unbound _ => exact .kept rfl
  | unseen f _ => exact .kept rfl
  | unchanged _ now => exact (readied_settleStatus _ now).of_conditions_eq rfl
  | refused _ f => exact .kept rfl
  | accepted _ kept now =>
    -- neither the parameters nor the metadata hold conditions
    exact (readied_settleStatus _ now).of_conditions_eq rfl

/-- **Creating** sets that the database is being created, whatever comes of it. -/
theorem readied_of_create (session : Session) (c : Cluster) :
    (create session c).Ensures fun p =>
      ∃ now, p.2.conditions = (Reason.creating.condition now).put c.conditions := by
  intro es p h
  cases Making.of_run h with
  | failed e now => exact ⟨now, rfl⟩
  | bound _ details now => exact ⟨now, rfl⟩

/-- **Deleting** sets that the database is being deleted, whatever comes of it. -/
theorem readied_of_delete (session : Session) (c : Cluster) :
    (delete session c).Ensures fun p =>
      ∃ now, p.2.conditions = (Reason.deleting.condition now).put c.conditions := by
  intro es p h
  obtain ⟨now, hleft⟩ := left_by_delete session c es p h
  rw [hleft]
  exact ⟨now, rfl⟩

end Lifecycle

/-! ## Any sequence of operations -/

/-- A cluster on which operations that may touch conditions were done, one after another, the verbs
with any answers. -/
inductive Touched (c₀ : Cluster) : Cluster → Prop
  | start : Touched c₀ c₀
  | set {c : Cluster} (h : Touched c₀ c) (d : Condition) : Touched c₀ (c.setCondition d)
  | settled {c : Cluster} (h : Touched c₀ c) (now : Instant) : Touched c₀ (c.settleStatus now)
  | observed {c c' : Cluster} (h : Touched c₀ c) {session : Session} {es : List Outside.Event}
      {r : Except Error Sighting} (ho : (Lifecycle.observe session c).Run es (r, c')) :
      Touched c₀ c'
  | created {c c' : Cluster} (h : Touched c₀ c) {session : Session} {es : List Outside.Event}
      {r : Except Error ConnectionDetails} (hc : (Lifecycle.create session c).Run es (r, c')) :
      Touched c₀ c'
  | deleted {c c' : Cluster} (h : Touched c₀ c) {session : Session} {es : List Outside.Event}
      {r : Except Error Unit} (hd : (Lifecycle.delete session c).Run es (r, c')) :
      Touched c₀ c'

/-- The types of the conditions. -/
def Cluster.conditionTypes (c : Cluster) : List String := c.conditions.map Condition.type

/-- **Step.** Setting a condition keeps types distinct. -/
theorem nodup_types_of_put {d : Condition} (hput : c'.conditions = d.put c.conditions)
    (h : c.conditionTypes.Nodup) : c'.conditionTypes.Nodup := by
  rw [Cluster.conditionTypes, hput]
  exact Condition.nodup_types_put h

theorem nodup_types_of_readied (hr : Readied c c') (h : c.conditionTypes.Nodup) :
    c'.conditionTypes.Nodup := by
  cases hr with
  | kept hkept =>
    rw [Cluster.conditionTypes, hkept]
    exact h
  | set r now hset => exact nodup_types_of_put hset h

/-- **Run.** Types that are distinct stay distinct. -/
theorem nodup_types_of_touched (ht : Touched c₀ c) (h : c₀.conditionTypes.Nodup) :
    c.conditionTypes.Nodup := by
  induction ht with
  | start => exact h
  | @set c _ d ih => exact nodup_types_of_put (c.conditions_setCondition d) ih
  | @settled c _ now ih => exact nodup_types_of_readied (readied_settleStatus c now) ih
  | @observed c c' _ session es r ho ih =>
    exact nodup_types_of_readied (Lifecycle.readied_of_observe session c es _ ho) ih
  | @created c c' _ session es r hc ih =>
    obtain ⟨now, hset⟩ := Lifecycle.readied_of_create session c es _ hc
    exact nodup_types_of_put hset ih
  | @deleted c c' _ session es r hd ih =>
    obtain ⟨now, hset⟩ := Lifecycle.readied_of_delete session c es _ hd
    exact nodup_types_of_put hset ih

/-- **Conditions are a map by type.** Whatever operations are done on a cluster whose conditions
have distinct types, and whatever the verbs among them are answered, the types stay distinct.
Setting a condition leaves those of other types as they are and in their order. Where its type is
there already it leaves all types in their places, and where not it is appended. Of any cluster,
also of one with several conditions of a type, the reason that was set last is the one that is
read. -/
theorem conditions_by_type :
    (∀ c₀ c : Cluster, c₀.conditionTypes.Nodup → Touched c₀ c → c.conditionTypes.Nodup) ∧
    (∀ (c : Cluster) (d : Condition),
      (c.setCondition d).conditions.filter (fun d' => d'.type ≠ d.type) =
        c.conditions.filter (fun d' => d'.type ≠ d.type) ∧
      (d.type ∈ c.conditionTypes → (c.setCondition d).conditionTypes = c.conditionTypes) ∧
      (d.type ∉ c.conditionTypes → (c.setCondition d).conditions = c.conditions ++ [d])) ∧
    ∀ (c : Cluster) (r : Reason) (now : Instant), (c.setReady r now).readyReason? = some r := by
  refine ⟨fun c₀ c h ht => nodup_types_of_touched ht h, fun c d => ?_,
    Cluster.readyReason?_setReady⟩
  unfold Cluster.conditionTypes
  rw [c.conditions_setCondition d]
  exact ⟨Condition.filter_put_of_ne _ _, Condition.types_put_of_mem, Condition.put_of_not_mem⟩

namespace Condition.Sample

/-- A cluster that is not bound and has a condition of its own. -/
def synced : Cluster :=
  { Exchange.Sample.cluster "" with
    status := some { conditions := [⟨"Synced", "True", Exchange.Sample.now, none, none⟩] } }

/-- It as creating a database leaves it. -/
def bound : Cluster :=
  (Prog.play (fun _ => Lifecycle.Sample.answers) 0
    (Lifecycle.create Lifecycle.Sample.opened synced)).2.2

end Condition.Sample

open Condition.Sample in
/-- A cluster with a condition has two when a database is created for it. -/
theorem conditions_by_type_created : Touched synced bound ∧ bound.conditionTypes.Nodup ∧
    bound.conditionTypes = ["Synced", "Ready"] := by
  have hrun := Prog.run_play (fun _ => Lifecycle.Sample.answers) 0
    (Lifecycle.create Lifecycle.Sample.opened synced)
  have htouched : Touched synced bound := .created .start hrun
  have hsynced : synced.conditionTypes.Nodup := by decide
  exact ⟨htouched, conditions_by_type.1 synced bound hsynced htouched, by decide +kernel⟩

end ClusterKeeper
