import ClusterKeeper.Proofs.Conditions

/-!
# What shows of a condition

A condition that is set is to show as it is, and to date from the last change of its status or
reason. It does, but for its message: a message with a status and a reason that show already is
dropped, however often it is set.

* `Status.shown?`, `Condition.due`: what shows of a type, and what is due to show once a condition
  is set.
* `Status.setCondition_of_stale`, `Status.shown?_setCondition`: what comes of a condition with the
  status and reason that show, and of any other.
* `Status.shown_is_due_iff`: when a condition shows as it is due.
-/

namespace ClusterKeeper

variable {s : Status} {c : Condition}

/-- What is due to show once a condition is set: the condition, dated from before if what showed
before has its status and reason. -/
def Condition.due (c : Condition) : Option Condition → Condition
  | some d =>
    if d.status = c.status ∧ d.reason = c.reason then
      { c with lastTransitionTime := d.lastTransitionTime }
    else c
  | none => c

namespace Status

/-- The condition of a type that shows. -/
def shown? (s : Status) (ty : String) : Option Condition := Condition.first? ty s.conditions

/-- **A condition is stale**: its status and reason show already. -/
def Stale (s : Status) (c : Condition) : Prop :=
  ∃ d, s.shown? c.type = some d ∧ d.status = c.status ∧ d.reason = c.reason

theorem type_of_shown? {ty : String} {d : Condition} (h : s.shown? ty = some d) : d.type = ty := by
  have htype := List.find?_some h
  exact of_decide_eq_true htype

/-- **A stale condition** leaves the status as it is. -/
theorem setCondition_of_stale (h : s.Stale c) : s.setCondition c = s := by
  obtain ⟨d, hshown, hstatus, hreason⟩ := h
  unfold setCondition
  rw [Condition.put_eq_self hshown hstatus hreason]

/-- **Any other condition** shows as it is. -/
theorem shown?_setCondition (h : ¬ s.Stale c) : (s.setCondition c).shown? c.type = some c :=
  Condition.first?_put fun d hshown hsame => h ⟨d, hshown, hsame⟩

/-- However often stale conditions are set, of whatever types, the status stays as it is. -/
theorem foldl_setCondition_of_stale {told : List Condition} (h : ∀ e ∈ told, s.Stale e) :
    told.foldl setCondition s = s := by
  induction told with
  | nil => rfl
  | cons e told ih =>
    rw [List.forall_mem_cons] at h
    rw [List.foldl_cons, setCondition_of_stale h.1, ih h.2]

theorem due_of_not_stale (h : ¬ s.Stale c) : c.due (s.shown? c.type) = c := by
  unfold Condition.due
  split
  · rename_i d hshown
    exact if_neg fun hsame => h ⟨d, hshown, hsame⟩
  · rfl

/-- Of a stale condition the message is due, and nothing else. -/
theorem due_of_stale {d : Condition} (hshown : s.shown? c.type = some d)
    (hstatus : d.status = c.status) (hreason : d.reason = c.reason) :
    c.due (s.shown? c.type) = { d with message := c.message } := by
  have htype := type_of_shown? hshown
  rw [hshown, Condition.due, if_pos ⟨hstatus, hreason⟩]
  cases d
  cases c
  simp_all

/-- **A condition that is set shows as it is due** exactly if it does not come with a new message
to the status and reason that show. All else of it shows as it is due in any case, and what is
dropped is dropped however often it is set. -/
theorem shown_is_due_iff (s : Status) (c : Condition) :
    (∃ d, (s.setCondition c).shown? c.type = some d ∧
      { d with message := c.message } = c.due (s.shown? c.type)) ∧
    ((s.setCondition c).shown? c.type = some (c.due (s.shown? c.type)) ↔
      ∀ d, s.shown? c.type = some d → d.status = c.status → d.reason = c.reason →
        d.message = c.message) ∧
    ∀ told : List Condition, (∀ e ∈ told, s.Stale e) → told.foldl setCondition s = s := by
  refine ⟨?_, ?_, fun told => foldl_setCondition_of_stale⟩
  · by_cases hstale : s.Stale c
    · -- what showed before shows on, and only its message can fall short
      obtain ⟨d, hshown, hstatus, hreason⟩ := hstale
      rw [setCondition_of_stale ⟨d, hshown, hstatus, hreason⟩]
      exact ⟨d, hshown, (due_of_stale hshown hstatus hreason).symm⟩
    · exact ⟨c, shown?_setCondition hstale, (due_of_not_stale hstale).symm⟩
  · by_cases hstale : s.Stale c
    · obtain ⟨d, hshown, hstatus, hreason⟩ := hstale
      rw [setCondition_of_stale ⟨d, hshown, hstatus, hreason⟩, due_of_stale hshown hstatus hreason,
        hshown]
      constructor
      · intro hdue d' hd' _ _
        cases hd'
        have hmessage := congrArg Condition.message (Option.some.inj hdue)
        exact hmessage
      · intro hmessage
        rw [← hmessage d rfl hstatus hreason]
    · rw [shown?_setCondition hstale, due_of_not_stale hstale]
      exact iff_of_true rfl fun d hshown hstatus hreason =>
        absurd ⟨d, hshown, hstatus, hreason⟩ hstale

namespace Sample

/-- What is said at a second of a cluster that is being created. -/
def creating (said : String) (s : Fin 60) : Condition :=
  { Reason.creating.condition (Condition.Sample.second s) with message := some said }

/-- A status with one condition. -/
def alone (c : Condition) : Status := { conditions := [c] }

end Sample

open Sample in
/-- A condition that is set again dates from when it was set first. -/
theorem shown_is_due_iff_repeated :
    ((alone (creating "waiting" 0)).setCondition (creating "waiting" 1)).shown? "Ready" =
      some (creating "waiting" 0) := by
  have hdue := (shown_is_due_iff (alone (creating "waiting" 0)) (creating "waiting" 1)).2.1.2
    fun d hshown _ _ => by cases hshown; rfl
  exact hdue.trans (by decide)

open Sample in
/-- **A new message is left out** where status and reason are not new. -/
theorem message_left_out : ¬ ∀ (s : Status) (c : Condition),
    (s.setCondition c).shown? c.type = some (c.due (s.shown? c.type)) := by
  intro h
  have hdue := h (alone (creating "waiting" 0)) (creating "quota exceeded" 1)
  have hdropped : ((alone (creating "waiting" 0)).setCondition
      (creating "quota exceeded" 1)).shown? "Ready" = some (creating "waiting" 0) := by decide
  have hmessage := congrArg (Option.bind · Condition.message) (hdropped.symm.trans hdue)
  exact absurd hmessage (by decide)

end Status

end ClusterKeeper
