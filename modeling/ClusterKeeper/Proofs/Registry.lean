import ClusterKeeper.Metrics.Basic

/-!
# What a registry shows

A registry is told of one event after another, and each number that it shows is read off them: a
counter off how many events there were, a gauge off the last one about it.

* `Registry.recordAll`: a registry after some events.
* `externalCount_recordAll`: a counter grows with every event that it counts.
* `availability?_recordAll`: a gauge shows what was said of it last.
-/

namespace ClusterKeeper.Metrics

/-- The counter that an event belongs to: calls of an operation that ended in one way. -/
def Event.counts? : Event → Option (String × Bool)
  | .externalCall operation success => some (operation, success)
  | _ => none

/-- What an event says of the gauge of a name: its value, or that it has none. -/
def Event.says? (name : String) : Event → Option (Option Bool)
  | .availability name' available => if name' = name then some (some available) else none
  | .forgotten name' => if name' = name then some none else none
  | _ => none

namespace Registry

/-- Add events in order, each with the microseconds that a reconcile took if it ended one. -/
def recordAll (r : Registry) (timed : List (Nat × Event)) : Registry :=
  timed.foldl (fun r e => r.record e.1 e.2) r

variable {name operation operation' : String} {success success' : Bool} {micros : Nat}
  {event : Event}

theorem recordAll_cons (r : Registry) (e : Nat × Event) (timed : List (Nat × Event)) :
    r.recordAll (e :: timed) = (r.record e.1 e.2).recordAll timed := rfl

/-! ## Counters -/

/-- The number that some counts show for an operation that ended in one way. -/
def shown (operation : String) (success : Bool) (counts : List ExternalCount) : Nat :=
  match counts.find? fun e => e.operation = operation ∧ e.success = success with
  | some e => e.count
  | none => 0

theorem externalCount_eq (r : Registry) :
    r.externalCount operation success = shown operation success r.external := rfl

@[simp] theorem shown_nil : shown operation success [] = 0 := rfl

theorem shown_cons (e : ExternalCount) (rest : List ExternalCount) :
    shown operation success (e :: rest) =
      if e.operation = operation ∧ e.success = success then e.count
      else shown operation success rest := by
  unfold shown
  rw [List.find?_cons]
  by_cases he : e.operation = operation ∧ e.success = success
  · rw [decide_eq_true he, if_pos he]
  · rw [decide_eq_false he, if_neg he]

/-- One more call shows in its own counter, and in no other. -/
theorem shown_bump (counts : List ExternalCount) :
    shown operation success (bump operation' success' counts) =
      shown operation success counts +
        if operation' = operation ∧ success' = success then 1 else 0 := by
  induction counts with
  | nil => rw [bump, shown_cons, shown_nil, Nat.zero_add]
  | cons e rest ih =>
    rw [bump]
    by_cases hown : e.operation = operation' ∧ e.success = success'
    · obtain ⟨rfl, rfl⟩ := hown
      rw [if_pos ⟨rfl, rfl⟩, shown_cons, shown_cons]
      by_cases he : e.operation = operation ∧ e.success = success
      · rw [if_pos he, if_pos he, if_pos he]
      · rw [if_neg he, if_neg he, if_neg he, Nat.add_zero]
    · rw [if_neg hown, shown_cons, shown_cons, ih]
      by_cases he : e.operation = operation ∧ e.success = success
      · -- the counter that shows is `e`, which is not the one that counts
        have hother : ¬ (operation' = operation ∧ success' = success) := by
          rintro ⟨rfl, rfl⟩
          exact hown he
        rw [if_pos he, if_pos he, if_neg hother, Nat.add_zero]
      · rw [if_neg he, if_neg he]

theorem externalCount_record (r : Registry) :
    (r.record micros event).externalCount operation success =
      r.externalCount operation success +
        if event.counts? = some (operation, success) then 1 else 0 := by
  cases event with
  | externalCall operation' success' =>
    have hcounts : (Event.externalCall operation' success').counts? = some (operation, success) ↔
        operation' = operation ∧ success' = success := by
      simp [Event.counts?]
    rw [externalCount_eq, externalCount_eq, record, shown_bump]
    simp only [hcounts]
  | reconcileStarted => rfl
  | reconcileEnded failed => rfl
  | availability name available => rfl
  | forgotten name => rfl

/-- **A counter** grows by the number of events that belong to it. -/
theorem externalCount_recordAll (r : Registry) (timed : List (Nat × Event)) :
    (r.recordAll timed).externalCount operation success =
      r.externalCount operation success +
        ((timed.map Prod.snd).filterMap Event.counts?).count (operation, success) := by
  induction timed generalizing r with
  | nil => rfl
  | cons e timed ih =>
    rw [recordAll_cons, ih, externalCount_record, List.map_cons, List.filterMap_cons]
    cases he : e.2.counts? with
    | none => simp
    | some p =>
      rw [List.count_cons]
      simp only [Option.some_inj, beq_iff_eq]
      omega

/-! ## Gauges -/

theorem lookup_dropName (entries : List (String × Bool)) {name' : String} :
    (dropName name' entries).lookup name =
      if name' = name then none else entries.lookup name := by
  induction entries with
  | nil => rw [dropName, List.filter_nil, List.lookup_nil, ite_self]
  | cons e entries ih =>
    rw [dropName] at ih
    rw [dropName, List.filter_cons, List.lookup_cons]
    by_cases hdropped : e.1 = name'
    · rw [hdropped, bne_self_eq_false, if_neg Bool.false_ne_true, ih]
      by_cases hname : name' = name
      · rw [if_pos hname, if_pos hname]
      · rw [if_neg hname, if_neg hname, beq_eq_false_iff_ne.2 (Ne.symm hname)]
    · rw [bne_iff_ne.2 hdropped, if_pos rfl, List.lookup_cons, ih]
      by_cases hname : name' = name
      · rw [if_pos hname, if_pos hname, beq_eq_false_iff_ne.2 (hname ▸ Ne.symm hdropped)]
      · rw [if_neg hname, if_neg hname]

theorem availability?_record (r : Registry) :
    (r.record micros event).availability? name =
      (event.says? name).getD (r.availability? name) := by
  cases event with
  | availability name' available =>
    unfold availability?
    rw [record, List.lookup_cons, lookup_dropName, Event.says?]
    by_cases hname : name' = name
    · rw [if_pos hname, if_pos hname, beq_iff_eq.2 hname.symm, Option.getD_some]
    · rw [if_neg hname, if_neg hname, beq_eq_false_iff_ne.2 (Ne.symm hname), Option.getD_none]
  | forgotten name' =>
    unfold availability?
    rw [record, lookup_dropName, Event.says?]
    by_cases hname : name' = name
    · rw [if_pos hname, if_pos hname, Option.getD_some]
    · rw [if_neg hname, if_neg hname, Option.getD_none]
  | reconcileStarted => rfl
  | reconcileEnded failed => rfl
  | externalCall operation success => rfl

/-- **A gauge** shows what was said of it last, and what it showed before if nothing was. -/
theorem availability?_recordAll (r : Registry) (timed : List (Nat × Event)) :
    (r.recordAll timed).availability? name =
      ((timed.map Prod.snd).filterMap (Event.says? name)).getLast?.getD (r.availability? name) := by
  induction timed generalizing r with
  | nil => rfl
  | cons e timed ih =>
    rw [recordAll_cons, ih, availability?_record, List.map_cons, List.filterMap_cons]
    cases he : e.2.says? name with
    | none => rw [Option.getD_none]
    | some value =>
      rw [Option.getD_some, List.getLast?_cons, Option.getD_some]

end Registry

end ClusterKeeper.Metrics
