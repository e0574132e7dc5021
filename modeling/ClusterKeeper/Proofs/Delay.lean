import ClusterKeeper.Proofs.Release

/-!
# When a failed reconcile is tried again

A cause for which the work on a cluster fails calls for a short wait if it may pass by itself, and
for a long one if somebody has to mend it. A reconcile that fails gives its cause wrapped, and what
wraps it calls for a wait of its own.

* `Passing`, `Lasting`: the causes that call for a short and for a long wait.
* `cause_of_applying`, `cause_of_cleaning`: the work fails for no other cause.
* `failing_cases`: the work was left undone, or the finalizer could not be edited.
* `requeueAfter_of_run`: whatever made a reconcile fail, the wait is a minute.
* `minute_after_failure`: so it is never the wait that the cause calls for.
-/

namespace ClusterKeeper.Reconcile

open Exchange

/-- A cause that may pass by itself. -/
inductive Passing : Error → Prop
  | remote (context : String) (f : CallFailure) : Passing (.remote context f)
  | emptyResponse (context : String) : Passing (.emptyResponse context)
  | kube (text : String) : Passing (.kube text)

/-- A cause that somebody has to mend. -/
inductive Lasting : Error → Prop
  | nameRequired : Lasting .nameRequired
  | auth (text : String) : Lasting (.auth text)

/-- **The work that the finalizer calls for is left undone**: it returns an error. -/
inductive Undone (config : Config) (c : Cluster) : Trace → Error → Prop
  | applying {index : Nat} (hi : Finalizer.index? c = some index)
      (hd : Finalizer.isDeleted c = false) {es : Trace} {cause : Error}
      (h : Attempt.Ends config.apiUrl (apply config.reconcileInterval c) es (.error cause)) :
      Undone config c es cause
  | cleaning {index : Nat} (hi : Finalizer.index? c = some index)
      (hd : Finalizer.isDeleted c = true) {name : String} (hn : c.metadata.name = some name)
      {es : Trace} {cause : Error}
      (h : Attempt.Ends config.apiUrl (cleanup c) es (.error cause)) : Undone config c es cause

variable {config : Config} {apiUrl : String} {interval : Nat} {session : Session}
  {c c' : Cluster} {es tr : Trace} {e cause : Error} {r : Except Error Action}

theorem requeueAfter_of_passing (h : Passing e) : e.requeueAfter = 30 := by
  cases h with
  | remote context f => rfl
  | emptyResponse context => rfl
  | kube text => rfl

theorem requeueAfter_of_lasting (h : Lasting e) : e.requeueAfter = 300 := by
  cases h with
  | nameRequired => rfl
  | auth text => rfl

/-! ## The causes -/

/-- **Connecting** fails for want of credentials. -/
theorem lasting_of_connect (h : Carried (Lifecycle.connect apiUrl c) es (.error e)) :
    Lasting e := by
  cases Lifecycle.Connecting.of_carried h with
  | noConfig _ => exact .auth _
  | noSelector _ _ => exact .auth _
  | noSecret _ _ _ => exact .auth _
  | noToken _ _ _ _ => exact .auth _
  | noClient _ _ _ _ _ => exact .auth _

/-- **Observing** fails by a call. -/
theorem passing_of_observe (h : Carried (Lifecycle.observe session c) es (.error e, c')) :
    Passing e := by
  have hobserve := Lifecycle.Observing.of_carried h
  generalize hp : ((.error e, c') : Except Error Sighting × Cluster) = p at hobserve
  cases hobserve with
  | unbound _ => cases hp
  | missing _ _ _ => cases hp
  | failed _ _ _ => cases hp; exact .remote _ _
  | found _ _ ha =>
    cases ha with
    | settled _ _ => cases hp
    | unstored _ _ => cases hp; exact .kube _
    | stored _ _ _ => cases hp

/-- **Creating** fails by a call, or because there is no name to create a database under. -/
theorem cause_of_create (h : Carried (Lifecycle.create session c) es (.error e, c')) :
    Passing e ∨ Lasting e := by
  have hcreate := Lifecycle.Creating.of_carried h
  generalize hp : ((.error e, c') : Except Error ConnectionDetails × Cluster) = p at hcreate
  cases hcreate with
  | unnamed _ _ => cases hp; exact Or.inr .nameRequired
  | failed _ _ _ => cases hp; exact Or.inl (.remote _ _)
  | empty _ _ _ => cases hp; exact Or.inl (.emptyResponse _)
  | bound _ _ _ _ => cases hp
  | detailed _ _ _ _ _ => cases hp

/-- **Deleting** fails by a call. -/
theorem passing_of_delete (h : Carried (Lifecycle.delete session c) es (.error e, c')) :
    Passing e := by
  have hdelete := Lifecycle.Deleting.of_carried h
  generalize hp : ((.error e, c') : Except Error Unit × Cluster) = p at hdelete
  cases hdelete with
  | unbound _ _ => cases hp
  | deleted _ _ _ => cases hp
  | missing _ _ _ _ => cases hp
  | failed _ _ _ _ => cases hp; exact .remote _ _

theorem passing_of_naming (h : Naming c es (.error e)) : Passing e := by
  have hop {es : Trace} {e : Error} (h : Accessed (Kube.persistExternalName c) es (.error e)) :
      Passing e := by
    obtain ⟨answer, _, ha⟩ := accessed_call.1 h
    cases answer with
    | error f => cases ha; exact .kube _
    | ok _ => cases ha
  unfold Naming at h
  generalize nameAttempts = n at h
  generalize hr : (.error e : Except Error Cluster) = r at h
  induction h with
  | succeeded _ => cases hr
  | failed _ h => cases hr; exact hop h
  | again _ _ ih => exact ih hr

theorem passing_of_recordStatus (h : Accessed (Kube.recordStatus c) es (.error e)) :
    Passing e := by
  have hrecording := accessed_recordStatus.1 h
  generalize hr : (.error e : Except Error Unit) = r at hrecording
  cases hrecording with
  | unset _ => cases hr
  | @asked _ _ _ answer _ =>
    cases answer with
    | error f => cases hr; exact .kube _
    | ok _ => cases hr

theorem passing_of_publish {details : ConnectionDetails}
    (h : Accessed (Kube.publish c details) es (.error e)) : Passing e := by
  have hpublishing := accessed_publish.1 h
  generalize hr : (.error e : Except Error Unit) = r at hpublishing
  cases hpublishing with
  | nothing _ => cases hr
  | unasked _ _ => cases hr
  | @asked _ _ _ _ answer _ =>
    cases answer with
    | error f => cases hr; exact .kube _
    | ok _ => cases hr

/-- **Introducing** a cluster fails by a call, or because it has no name. -/
theorem cause_of_introducing (h : Introducing session c es (.error e)) :
    Passing e ∨ Lasting e := by
  cases h with
  | unnamed _ _ hn => exact Or.inl (passing_of_naming hn)
  | named hc _ hp =>
    cases hp with
    | unrecorded hs => exact Or.inl (passing_of_recordStatus hs)
    | uncreated _ hcr =>
      subst hcr
      exact cause_of_create hc
    | unpublished _ _ hp => exact Or.inl (passing_of_publish hp)

/-- **Applying** fails by a call, or for want of credentials or of a name. -/
theorem cause_of_applying (h : Applying apiUrl interval c es (.error e)) :
    Passing e ∨ Lasting e := by
  cases h with
  | unconnected hc => exact Or.inr (lasting_of_connect hc)
  | unobserved _ ho => exact Or.inl (passing_of_observe ho)
  | absent _ _ hi => exact cause_of_introducing hi
  | present _ _ hm =>
    cases hm with
    | unrecorded hs => exact Or.inl (passing_of_recordStatus hs)

/-- **Cleaning** fails by a call, or for want of credentials. -/
theorem cause_of_cleaning (h : Cleaning apiUrl c es (.error e)) : Passing e ∨ Lasting e := by
  cases h with
  | unconnected _ hc => exact Or.inr (lasting_of_connect hc)
  | undeleted _ _ hd => exact Or.inl (passing_of_delete hd)

theorem cause_of_undone (h : Undone config c es cause) : Passing cause ∨ Lasting cause := by
  cases h with
  | applying _ _ h => exact cause_of_applying (ends_apply_iff.1 h)
  | cleaning _ _ _ h => exact cause_of_cleaning (ends_cleanup_iff.1 h)

/-! ## The wait -/

/-- **A reconcile that fails** left its work undone and wraps the cause, or the finalizer could not
be edited. -/
theorem failing_cases (h : (exchanges config c).Run tr (.error e)) :
    ∃ es, tr = countedRound es true ∧
      ((∃ cause, Undone config c es cause ∧ (e = .applyFailed cause ∨ e = .cleanupFailed cause)) ∨
        (∃ f, e = .addFinalizer f ∨ e = .removeFinalizer f) ∨ e = .unnamedObject) := by
  obtain ⟨es, hg, rfl⟩ := run_exchanges_iff.1 h
  refine ⟨es, rfl, ?_⟩
  -- the outcomes of the finalizer that are errors, one constructor each
  generalize hr : (.error e : Except Error Action) = r at hg
  cases hg with
  | @applied _ hi hd _ r' ha =>
    cases r' with
    | error cause =>
      cases hr
      exact Or.inl ⟨cause, .applying hi hd (ends_apply_iff.2 ha), Or.inl rfl⟩
    | ok action => cases hr
  | uncleaned hi hd hn hc =>
    cases hr
    exact Or.inl ⟨_, .cleaning hi hd hn (ends_cleanup_iff.2 hc), Or.inr rfl⟩
  | @released _ _ _ _ _ _ _ _ answer _ _ =>
    cases answer with
    | error f =>
      cases hr
      exact Or.inr (Or.inl ⟨f, Or.inr rfl⟩)
    | ok kept => cases hr
  | @marked _ _ _ _ _ answer _ =>
    cases answer with
    | error f =>
      cases hr
      exact Or.inr (Or.inl ⟨f, Or.inl rfl⟩)
    | ok kept => cases hr
  | nameless _ _ =>
    cases hr
    exact Or.inr (Or.inr rfl)
  | ignored _ _ => cases hr

/-- Whatever made a reconcile fail, the wait is a minute. -/
theorem requeueAfter_of_run (h : (exchanges config c).Run tr (.error e)) :
    e.requeueAfter = 60 := by
  obtain ⟨es, _, ⟨cause, _, rfl | rfl⟩ | ⟨f, rfl | rfl⟩ | rfl⟩ := failing_cases h
  all_goals rfl

/-- Work that is left undone ends the reconcile, and its cause is wrapped. -/
theorem wrapped_of_undone (h : (exchanges config c).Run (countedRound es true) (.error e))
    (hu : Undone config c es cause) : e = .applyFailed cause ∨ e = .cleanupFailed cause := by
  have hrun {r : Except Error Action} (hg : Guarding config.apiUrl config.reconcileInterval c es r)
      (hr : r.isOk = false) : .error e = r := by
    refine Prog.Run.unique (run_exchanges_iff.2 ⟨es, hg, ?_⟩) h
    rw [hr]
    rfl
  cases hu with
  | applying hi hd h =>
    have he := hrun (.applied hi hd (ends_apply_iff.1 h)) rfl
    cases he
    exact Or.inl rfl
  | cleaning hi hd hn h =>
    have he := hrun (.uncleaned hi hd hn (ends_cleanup_iff.1 h)) rfl
    cases he
    exact Or.inr rfl

/-- What is wrapped is the cause for which the work is left undone. -/
theorem undone_of_wrapped (h : (exchanges config c).Run tr (.error e))
    (he : e = .applyFailed cause ∨ e = .cleanupFailed cause) :
    ∃ es, Undone config c es cause ∧ tr = countedRound es true := by
  obtain ⟨es, htr, ⟨cause', hu, hw⟩ | ⟨f, hw⟩ | hw⟩ := failing_cases h
  · have hcause : cause' = cause := by
      rcases hw with rfl | rfl
      · simpa using he
      · simpa using he
    exact ⟨es, hcause ▸ hu, htr⟩
  · rcases hw with rfl | rfl
    · simp at he
    · simp at he
  · subst hw
    simp at he

/-- **A minute after every failure.** A reconcile that fails is tried again after a minute. If it
fails because work was left undone, its error wraps the cause, and by itself the cause would call
for half a minute, or for five minutes if somebody has to mend it. -/
theorem minute_after_failure (h : (exchanges config c).Run tr (.error e)) :
    next (.error e) = .requeue 60 ∧
      ∀ es cause, Undone config c es cause → tr = countedRound es true →
        (e = .applyFailed cause ∨ e = .cleanupFailed cause) ∧
          (Passing cause ∧ next (.error cause) = .requeue 30 ∨
            Lasting cause ∧ next (.error cause) = .requeue 300) := by
  constructor
  · rw [next, requeueAfter_of_run h]
  rintro es cause hu rfl
  refine ⟨wrapped_of_undone h hu, ?_⟩
  rcases cause_of_undone hu with hp | hl
  · exact Or.inl ⟨hp, by rw [next, requeueAfter_of_passing hp]⟩
  · exact Or.inr ⟨hl, by rw [next, requeueAfter_of_lasting hl]⟩

end ClusterKeeper.Reconcile

namespace ClusterKeeper.Exchange

open Reconcile

namespace Sample

/-- The remote API is out of service. -/
def unavailable : (q : Question) → Answer q
  | .database _ => .response ⟨503, [], true⟩
  | q => givesA q

theorem failed_unavailable : (play unavailable (cluster "a")).2 =
    .error (.applyFailed (.remote Error.getContext (.api 503 ""))) := by
  decide +kernel

/-- A reconcile of a cluster whose database cannot be looked for. -/
theorem run_unavailable : (exchanges Sample.config (cluster "a")).Run
    (play unavailable (cluster "a")).1
      (.error (.applyFailed (.remote Error.getContext (.api 503 "")))) :=
  failed_unavailable ▸ run_play unavailable (cluster "a")

end Sample

open Sample in
/-- The remote API is looked for again after a minute, though half a minute would do. -/
theorem minute_after_failure_unavailable : ∃ tr e es cause,
    (exchanges Sample.config (cluster "a")).Run tr (.error e) ∧
      Undone Sample.config (cluster "a") es cause ∧ tr = countedRound es true ∧
        next (.error e) = .requeue 60 ∧ Passing cause ∧ next (.error cause) = .requeue 30 := by
  obtain ⟨es, hu, htr⟩ := undone_of_wrapped run_unavailable (Or.inl rfl)
  obtain ⟨hnext, hcauses⟩ := minute_after_failure run_unavailable
  rcases (hcauses es _ hu htr).2 with ⟨hp, hwait⟩ | ⟨hl, _⟩
  · exact ⟨_, _, es, _, run_unavailable, hu, htr, hnext, hp, hwait⟩
  · cases hl

open Sample in
/-- **The wait is not that of the cause**: the remote API is out of service, for which half a minute
is due, and the cluster waits a minute. -/
theorem wait_not_of_cause : ¬ ∀ config c tr r es cause, (exchanges config c).Run tr r →
    Undone config c es cause → tr = countedRound es true → next r = next (.error cause) := by
  intro hall
  obtain ⟨es, hu, htr⟩ := undone_of_wrapped run_unavailable (Or.inl rfl)
  have hwait := hall _ _ _ _ es _ run_unavailable hu htr
  rw [next, next, requeueAfter_of_run run_unavailable] at hwait
  cases hwait

end ClusterKeeper.Exchange
