import ClusterKeeper.Proofs.Attempt

/-!
# How a reconcile can go

Everything a reconcile can exchange, part by part, and how each part ends.

* `ends_retry_iff`: tries with a pause after each failure but the last.
* `ends_introduce_iff`, `ends_maintain_iff`: a cluster without a database and one with it.
* `ends_apply_iff`, `ends_cleanup_iff`: a live cluster and one that is being deleted.
* `run_exchanges_iff`: the whole of a reconcile.
-/

namespace ClusterKeeper

open Exchange

namespace Reconcile

variable {α : Type} {apiUrl : String} {interval : Nat} {session : Session} {c : Cluster}

/-- **Trying again**: `op` until it succeeds or the attempts are used up, with a pause of `millis`
after each failure but the last. -/
inductive Retrying (op : Trace → Except Error α → Prop) (millis : Nat) :
    Nat → Trace → Except Error α → Prop
  | succeeded {n : Nat} {es : Trace} {a : α} (h : op es (.ok a)) : Retrying op millis n es (.ok a)
  | failed {n : Nat} {es : Trace} {e : Error} (hn : n ≤ 1) (h : op es (.error e)) :
      Retrying op millis n es (.error e)
  | again {n : Nat} {es es' : Trace} {e : Error} {r : Except Error α} (h : op es (.error e))
      (h' : Retrying op millis (n + 1) es' r) :
      Retrying op millis (n + 2) (es ++ .pause millis :: es') r

/-- What recording the identifier of a cluster can come to. -/
def Naming (c : Cluster) : Trace → Except Error Cluster → Prop :=
  Retrying (Accessed (Kube.persistExternalName c)) nameBackoff nameAttempts

/-- A cluster has its identifier recorded, if it has one. -/
inductive Named (c : Cluster) : Trace → Prop
  | unbound (h : c.externalName = "") : Named c []
  | recorded (h : c.externalName ≠ "") {es : Trace} {kept : Cluster} (hn : Naming c es (.ok kept)) :
      Named c es

/-- **After the naming** the status is recorded, a failed creation shows, and the details are
published. What fails first ends it. -/
inductive Presenting (creation : Except Error ConnectionDetails) (c : Cluster) :
    Trace → Except Error Action → Prop
  | unrecorded {es : Trace} {e : Error} (hs : Accessed (Kube.recordStatus c) es (.error e)) :
      Presenting creation c es (.error e)
  | uncreated {es : Trace} {e : Error} (hs : Accessed (Kube.recordStatus c) es (.ok ()))
      (hc : creation = .error e) : Presenting creation c es (.error e)
  | unpublished {es es' : Trace} {details : ConnectionDetails} {e : Error}
      (hs : Accessed (Kube.recordStatus c) es (.ok ())) (hc : creation = .ok details)
      (hp : Accessed (Kube.publish c details) es' (.error e)) :
      Presenting creation c (es ++ es') (.error e)
  | presented {es es' : Trace} {details : ConnectionDetails}
      (hs : Accessed (Kube.recordStatus c) es (.ok ())) (hc : creation = .ok details)
      (hp : Accessed (Kube.publish c details) es' (.ok ())) :
      Presenting creation c (es ++ es') (.ok (.requeue creatingInterval))

/-- **Introducing** a cluster: its database is created and its identifier recorded, before
anything else is. -/
inductive Introducing (session : Session) (c : Cluster) : Trace → Except Error Action → Prop
  | unnamed {es es' : Trace} {creation : Except Error ConnectionDetails} {c' : Cluster} {e : Error}
      (h : Carried (Lifecycle.create session c) es (creation, c')) (hb : c'.externalName ≠ "")
      (hn : Naming c' es' (.error e)) : Introducing session c (es ++ es') (.error e)
  | named {es es' es'' : Trace} {creation : Except Error ConnectionDetails} {c' : Cluster}
      {r : Except Error Action} (h : Carried (Lifecycle.create session c) es (creation, c'))
      (hn : Named c' es') (hp : Presenting creation c' es'' r) :
      Introducing session c (es ++ (es' ++ es'')) r

/-- **Maintaining** a cluster that has a database: its status is recorded, and then whether it is
available. -/
inductive Maintaining (interval : Nat) (name : String) (c : Cluster) :
    Trace → Except Error Action → Prop
  | unrecorded {es : Trace} {e : Error} (hs : Accessed (Kube.recordStatus c) es (.error e)) :
      Maintaining interval name c es (.error e)
  | maintained {es : Trace} (hs : Accessed (Kube.recordStatus c) es (.ok ())) :
      Maintaining interval name c (es ++ [.record (.availability name (isAvailable c))])
        (.ok (.requeue (settledInterval interval c)))

/-- **The work on a live cluster.** -/
inductive Applying (apiUrl : String) (interval : Nat) (c : Cluster) :
    Trace → Except Error Action → Prop
  | unconnected {es : Trace} {e : Error} (h : Carried (Lifecycle.connect apiUrl c) es (.error e)) :
      Applying apiUrl interval c es (.error e)
  | unobserved {es es' : Trace} {session : Session} {e : Error} {c' : Cluster}
      (h : Carried (Lifecycle.connect apiUrl c) es (.ok session))
      (ho : Carried (Lifecycle.observe session c) es' (.error e, c')) :
      Applying apiUrl interval c (es ++ es') (.error e)
  | absent {es es' es'' : Trace} {session : Session} {r : Except Error Action}
      (h : Carried (Lifecycle.connect apiUrl c) es (.ok session))
      (ho : Carried (Lifecycle.observe session c) es' (.ok {}, c))
      (hi : Introducing session c es'' r) :
      Applying apiUrl interval c (es ++ (es' ++ es'')) r
  | present {es es' es'' : Trace} {session : Session} {c' : Cluster} {r : Except Error Action}
      (h : Carried (Lifecycle.connect apiUrl c) es (.ok session))
      (ho : Carried (Lifecycle.observe session c) es'
        (.ok { present := true, upToDate := true }, c'))
      (hm : Maintaining interval c.anyName c' es'' r) :
      Applying apiUrl interval c (es ++ (es' ++ es'')) r

/-- **The work on a cluster that is being deleted.** -/
inductive Cleaning (apiUrl : String) (c : Cluster) : Trace → Except Error Action → Prop
  | orphaned (h : c.spec.deletionPolicy = .orphan) :
      Cleaning apiUrl c [.record (.forgotten c.anyName)] (.ok .awaitChange)
  | unconnected (h : c.spec.deletionPolicy ≠ .orphan) {es : Trace} {e : Error}
      (hc : Carried (Lifecycle.connect apiUrl c) es (.error e)) :
      Cleaning apiUrl c (.record (.forgotten c.anyName) :: es) (.error e)
  | undeleted (h : c.spec.deletionPolicy ≠ .orphan) {es es' : Trace} {session : Session} {e : Error}
      {c' : Cluster} (hc : Carried (Lifecycle.connect apiUrl c) es (.ok session))
      (hd : Carried (Lifecycle.delete session c) es' (.error e, c')) :
      Cleaning apiUrl c (.record (.forgotten c.anyName) :: (es ++ es')) (.error e)
  | deleted (h : c.spec.deletionPolicy ≠ .orphan) {es es' es'' : Trace} {session : Session}
      {c' : Cluster} {recorded : Except Error Unit}
      (hc : Carried (Lifecycle.connect apiUrl c) es (.ok session))
      (hd : Carried (Lifecycle.delete session c) es' (.ok (), c'))
      (hs : Accessed (Kube.recordStatus c') es'' recorded) :
      Cleaning apiUrl c (.record (.forgotten c.anyName) :: (es ++ (es' ++ es''))) (.ok .awaitChange)

/-- **A reconcile between its counts**: the finalizer decides which work is done. -/
inductive Guarding (apiUrl : String) (interval : Nat) (c : Cluster) :
    Trace → Except Error Action → Prop
  | applied {index : Nat} (hi : Finalizer.index? c = some index)
      (hd : Finalizer.isDeleted c = false) {es : Trace} {r : Except Error Action}
      (h : Applying apiUrl interval c es r) :
      Guarding apiUrl interval c es (r.mapError .applyFailed)
  | uncleaned {index : Nat} (hi : Finalizer.index? c = some index)
      (hd : Finalizer.isDeleted c = true) {name : String} (hn : c.metadata.name = some name)
      {es : Trace} {e : Error} (h : Cleaning apiUrl c es (.error e)) :
      Guarding apiUrl interval c es (.error (.cleanupFailed e))
  | released {index : Nat} (hi : Finalizer.index? c = some index)
      (hd : Finalizer.isDeleted c = true) {name : String} (hn : c.metadata.name = some name)
      {es es' : Trace} {action : Action} {answer : Except Kube.Failure Cluster}
      (h : Cleaning apiUrl c es (.ok action))
      (ha : Asked (.editFinalizers name (.remove index Finalizer.name)) es' answer) :
      Guarding apiUrl interval c (es ++ es')
        ((answer.map fun _ => action).mapError .removeFinalizer)
  | marked (hi : Finalizer.index? c = none) (hd : Finalizer.isDeleted c = false) {name : String}
      (hn : c.metadata.name = some name) {es : Trace} {answer : Except Kube.Failure Cluster}
      (ha : Asked (.editFinalizers name (Finalizer.addition c)) es answer) :
      Guarding apiUrl interval c es
        ((answer.map fun _ => .awaitChange).mapError .addFinalizer)
  | nameless (h : (Finalizer.index? c).isSome = Finalizer.isDeleted c)
      (hn : c.metadata.name = none) : Guarding apiUrl interval c [] (.error .unnamedObject)
  | ignored (hi : Finalizer.index? c = none) (hd : Finalizer.isDeleted c = true) :
      Guarding apiUrl interval c [] (.ok .awaitChange)

theorem ends_retry_iff {op : Attempt α} {millis n : Nat} {es : Trace} {r : Except Error α} :
    Attempt.Ends apiUrl (Prog.retry (Prog.query (I := Steps.interface) (.pause millis)) op.run n)
      es r ↔ Retrying (Attempt.Ends apiUrl op) millis n es r := by
  induction n using Prog.retry.induct generalizing es r with
  | case1 =>
    constructor
    · intro h
      cases r with
      | ok a => exact .succeeded h
      | error e => exact .failed (Nat.zero_le 1) h
    · intro h
      cases h with
      | succeeded h => exact h
      | failed _ h => exact h
  | case2 =>
    constructor
    · intro h
      cases r with
      | ok a => exact .succeeded h
      | error e => exact .failed (Nat.le_refl 1) h
    · intro h
      cases h with
      | succeeded h => exact h
      | failed _ h => exact h
  | case3 n ih =>
    unfold Attempt.Ends ExceptT.run
    rw [Prog.retry, Prog.handle_bind, Prog.run_bind_iff]
    constructor
    · rintro ⟨es₁, a, es₂, hop, h, rfl⟩
      cases a with
      | ok a =>
        obtain ⟨rfl, rfl⟩ := Prog.run_done_iff.1 h
        rw [List.append_nil]
        exact .succeeded hop
      | error e =>
        obtain ⟨_, es', rfl, h'⟩ := Prog.run_ask_iff.1 h
        exact .again hop (ih.1 h')
    · intro h
      cases h with
      | @succeeded _ es a hop =>
        exact ⟨es, .ok a, [], hop, .done _, (List.append_nil es).symm⟩
      | failed hn _ => omega
      | @again _ es es' e _ hop h =>
        exact ⟨es, .error e, Event.pause millis :: es', hop,
          Prog.run_ask_iff.2 ⟨(), es', rfl, ih.2 h⟩, rfl⟩

theorem ends_persistName_iff {es : Trace} {r : Except Error Cluster} :
    Attempt.Ends apiUrl (persistName c) es r ↔ Naming c es r := by
  have h : Attempt.Ends apiUrl (Attempt.ofAccess (Kube.persistExternalName c)) =
      Accessed (Kube.persistExternalName c) :=
    funext fun _ => funext fun _ => propext Attempt.ends_ofAccess
  unfold Naming
  rw [← h]
  exact ends_retry_iff

theorem ends_presenting_iff {creation : Except Error ConnectionDetails} {es : Trace}
    {r : Except Error Action} :
    Attempt.Ends apiUrl (do
      recordStatus c
      let details ← Attempt.known creation
      publish c details
      return .requeue creatingInterval) es r ↔ Presenting creation c es r := by
  unfold recordStatus publish
  rw [Attempt.ends_ofAccess_bind]
  constructor
  · rintro (⟨e, hs, rfl⟩ | ⟨es₁, _, es₂, hs, h, rfl⟩)
    · exact .unrecorded hs
    rw [Attempt.ends_known_bind] at h
    rcases h with ⟨e, hc, rfl, rfl⟩ | ⟨details, hc, h⟩
    · rw [List.append_nil]
      exact .uncreated hs hc
    rw [Attempt.ends_ofAccess_bind] at h
    rcases h with ⟨e, hp, rfl⟩ | ⟨es₃, _, es₄, hp, h, rfl⟩
    · exact .unpublished hs hc hp
    obtain ⟨rfl, rfl⟩ := Attempt.ends_pure.1 h
    rw [List.append_nil]
    exact .presented hs hc hp
  · intro h
    cases h with
    | unrecorded hs => exact Or.inl ⟨_, hs, rfl⟩
    | @uncreated es e hs hc =>
      refine Or.inr ⟨es, (), [], hs, ?_, (List.append_nil es).symm⟩
      exact Attempt.ends_known_bind.2 (Or.inl ⟨e, hc, rfl, rfl⟩)
    | @unpublished es es' details e hs hc hp =>
      refine Or.inr ⟨es, (), es', hs, ?_, rfl⟩
      refine Attempt.ends_known_bind.2 (Or.inr ⟨details, hc, ?_⟩)
      exact Attempt.ends_ofAccess_bind.2 (Or.inl ⟨e, hp, rfl⟩)
    | @presented es es' details hs hc hp =>
      refine Or.inr ⟨es, (), es', hs, ?_, rfl⟩
      refine Attempt.ends_known_bind.2 (Or.inr ⟨details, hc, ?_⟩)
      refine Attempt.ends_ofAccess_bind.2 (Or.inr ⟨es', (), [], hp, ?_, (List.append_nil es').symm⟩)
      exact Attempt.ends_pure.2 ⟨rfl, rfl⟩

theorem ends_introduce_iff {es : Trace} {r : Except Error Action} :
    Attempt.Ends apiUrl (introduce session c) es r ↔ Introducing session c es r := by
  unfold introduce
  rw [Attempt.ends_certain_bind]
  constructor
  · rintro ⟨es₁, ⟨creation, c'⟩, es₂, hc, h, rfl⟩
    simp only at h
    split at h
    · rename_i hb
      rw [Attempt.ends_bind] at h
      rcases h with ⟨e, hn, rfl⟩ | ⟨es₃, kept, es₄, hn, h, rfl⟩
      · exact .unnamed hc hb (ends_persistName_iff.1 hn)
      · exact .named hc (.recorded hb (ends_persistName_iff.1 hn)) (ends_presenting_iff.1 h)
    · rename_i hb
      have hn : Named c' [] := .unbound (Decidable.not_not.1 hb)
      exact .named hc hn (ends_presenting_iff.1 h)
  · intro h
    cases h with
    | @unnamed es es' creation c' e hc hb hn =>
      refine ⟨es, (creation, c'), es', hc, ?_, rfl⟩
      simp only [if_pos hb]
      exact Attempt.ends_bind.2 (Or.inl ⟨e, ends_persistName_iff.2 hn, rfl⟩)
    | @named es es' es'' creation c' r hc hn hp =>
      refine ⟨es, (creation, c'), es' ++ es'', hc, ?_, rfl⟩
      cases hn with
      | unbound hb =>
        simp only [if_neg (not_not_intro hb)]
        exact ends_presenting_iff.2 hp
      | @recorded hb _ kept hn =>
        simp only [if_pos hb]
        exact Attempt.ends_bind.2
          (Or.inr ⟨es', kept, es'', ends_persistName_iff.2 hn, ends_presenting_iff.2 hp, rfl⟩)

/-- What is found is up to date and comes without details, so that nothing is updated and nothing
published. -/
theorem maintain_found (name : String) :
    maintain interval name session c { present := true, upToDate := true } = (do
      recordStatus c
      Attempt.record (.availability name (isAvailable c))
      return .requeue (settledInterval interval c)) := rfl

theorem ends_maintain_iff {name : String} {es : Trace} {r : Except Error Action} :
    Attempt.Ends apiUrl (maintain interval name session c { present := true, upToDate := true })
      es r ↔ Maintaining interval name c es r := by
  rw [maintain_found]
  unfold recordStatus
  rw [Attempt.ends_ofAccess_bind]
  constructor
  · rintro (⟨e, hs, rfl⟩ | ⟨es₁, _, es₂, hs, h, rfl⟩)
    · exact .unrecorded hs
    obtain ⟨es₃, h', rfl⟩ := Attempt.ends_record_bind.1 h
    obtain ⟨rfl, rfl⟩ := Attempt.ends_pure.1 h'
    exact .maintained hs
  · intro h
    cases h with
    | unrecorded hs => exact Or.inl ⟨_, hs, rfl⟩
    | @maintained es hs =>
      refine Or.inr ⟨es, (), _, hs, ?_, rfl⟩
      exact Attempt.ends_record_bind.2 ⟨[], Attempt.ends_pure.2 ⟨rfl, rfl⟩, rfl⟩

/-- **What observing gives**: nothing and an unchanged cluster, or a database that is up to date,
or an error. Details it never gives. -/
theorem sighting_of_observe {es : Trace} {r : Except Error Sighting} {c' : Cluster}
    (h : Carried (Lifecycle.observe session c) es (r, c')) :
    (r = .ok {} ∧ c' = c) ∨ r = .ok { present := true, upToDate := true } ∨ ∃ e, r = .error e := by
  have ho := Lifecycle.Observing.of_carried h
  generalize hp : (r, c') = p at ho
  cases ho with
  | unbound _ => cases hp; exact Or.inl ⟨rfl, rfl⟩
  | missing _ _ _ => cases hp; exact Or.inl ⟨rfl, rfl⟩
  | failed _ _ _ => cases hp; exact Or.inr (Or.inr ⟨_, rfl⟩)
  | found _ _ ha =>
    cases ha with
    | settled _ _ => cases hp; exact Or.inr (Or.inl rfl)
    | unstored _ _ => cases hp; exact Or.inr (Or.inr ⟨_, rfl⟩)
    | stored _ _ _ => cases hp; exact Or.inr (Or.inl rfl)

theorem ends_apply_iff {es : Trace} {r : Except Error Action} :
    Attempt.Ends apiUrl (apply interval c) es r ↔ Applying apiUrl interval c es r := by
  unfold apply
  rw [Attempt.ends_connect_bind]
  constructor
  · rintro (⟨e, hc, rfl⟩ | ⟨es₁, session, es₂, hc, h, rfl⟩)
    · exact .unconnected hc
    obtain ⟨es₃, ⟨found, c'⟩, es₄, ho, h₁, rfl⟩ := Attempt.ends_certain_bind.1 h
    rcases Attempt.ends_known_bind.1 h₁ with ⟨e, rfl, rfl, rfl⟩ | ⟨sighting, rfl, h₂⟩
    · rw [List.append_nil]
      exact .unobserved hc ho
    rcases sighting_of_observe ho with ⟨hs, rfl⟩ | hs | ⟨e, hs⟩
    · cases hs
      exact .absent hc ho (ends_introduce_iff.1 h₂)
    · cases hs
      exact .present hc ho (ends_maintain_iff.1 h₂)
    · cases hs
  · intro h
    cases h with
    | unconnected hc => exact Or.inl ⟨_, hc, rfl⟩
    | @unobserved es es' session e c' hc ho =>
      refine Or.inr ⟨es, session, es', hc, ?_, rfl⟩
      refine Attempt.ends_certain_bind.2 ⟨es', (.error e, c'), [], ho, ?_,
        (List.append_nil es').symm⟩
      exact Attempt.ends_known_bind.2 (Or.inl ⟨e, rfl, rfl, rfl⟩)
    | @absent es es' es'' session r hc ho hi =>
      refine Or.inr ⟨es, session, es' ++ es'', hc, ?_, rfl⟩
      refine Attempt.ends_certain_bind.2 ⟨es', (.ok {}, c), es'', ho, ?_, rfl⟩
      exact Attempt.ends_known_bind.2 (Or.inr ⟨{}, rfl, ends_introduce_iff.2 hi⟩)
    | @present es es' es'' session c' r hc ho hm =>
      refine Or.inr ⟨es, session, es' ++ es'', hc, ?_, rfl⟩
      refine Attempt.ends_certain_bind.2
        ⟨es', (.ok { present := true, upToDate := true }, c'), es'', ho, ?_, rfl⟩
      exact Attempt.ends_known_bind.2 (Or.inr ⟨_, rfl, ends_maintain_iff.2 hm⟩)

theorem ends_recordStatus_certain_iff {es : Trace} {r : Except Error (Except Error Unit)} :
    Attempt.Ends apiUrl (Attempt.certain (recordStatus c).run) es r ↔
      ∃ recorded, Accessed (Kube.recordStatus c) es recorded ∧ r = .ok recorded := by
  rw [Attempt.ends_certain]
  have h {recorded : Except Error Unit} :
      Attempt.Ends apiUrl (recordStatus c) es recorded ↔
        Accessed (Kube.recordStatus c) es recorded :=
    Attempt.ends_ofAccess
  exact exists_congr fun recorded => and_congr_left fun _ => h

theorem ends_cleanup_iff {es : Trace} {r : Except Error Action} :
    Attempt.Ends apiUrl (cleanup c) es r ↔ Cleaning apiUrl c es r := by
  unfold cleanup
  rw [Attempt.ends_record_bind]
  constructor
  · rintro ⟨es₁, h, rfl⟩
    split at h
    · rename_i ho
      obtain ⟨rfl, rfl⟩ := Attempt.ends_pure.1 h
      exact .orphaned ho
    · rename_i ho
      rcases Attempt.ends_connect_bind.1 h with ⟨e, hc, rfl⟩ | ⟨es₂, session, es₃, hc, h₁, rfl⟩
      · exact .unconnected ho hc
      obtain ⟨es₄, ⟨deleted, c'⟩, es₅, hd, h₂, rfl⟩ := Attempt.ends_certain_bind.1 h₁
      rcases Attempt.ends_known_bind.1 h₂ with ⟨e, rfl, rfl, rfl⟩ | ⟨_, rfl, h₃⟩
      · rw [List.append_nil]
        exact .undeleted ho hc hd
      rcases Attempt.ends_bind.1 h₃ with ⟨e, h₄, rfl⟩ | ⟨es₆, recorded, es₇, h₄, h₅, rfl⟩
      · obtain ⟨recorded, _, hr⟩ := ends_recordStatus_certain_iff.1 h₄
        cases hr
      obtain ⟨_, hs, hr⟩ := ends_recordStatus_certain_iff.1 h₄
      cases hr
      obtain ⟨rfl, rfl⟩ := Attempt.ends_pure.1 h₅
      rw [List.append_nil]
      exact .deleted ho hc hd hs
  · intro h
    cases h with
    | orphaned ho =>
      refine ⟨[], ?_, rfl⟩
      rw [if_pos ho]
      exact Attempt.ends_pure.2 ⟨rfl, rfl⟩
    | @unconnected ho es e hc =>
      refine ⟨es, ?_, rfl⟩
      rw [if_neg ho]
      exact Attempt.ends_connect_bind.2 (Or.inl ⟨e, hc, rfl⟩)
    | @undeleted ho es es' session e c' hc hd =>
      refine ⟨es ++ es', ?_, rfl⟩
      rw [if_neg ho]
      refine Attempt.ends_connect_bind.2 (Or.inr ⟨es, session, es', hc, ?_, rfl⟩)
      refine Attempt.ends_certain_bind.2 ⟨es', (.error e, c'), [], hd, ?_,
        (List.append_nil es').symm⟩
      exact Attempt.ends_known_bind.2 (Or.inl ⟨e, rfl, rfl, rfl⟩)
    | @deleted ho es es' es'' session c' recorded hc hd hs =>
      refine ⟨es ++ (es' ++ es''), ?_, rfl⟩
      rw [if_neg ho]
      refine Attempt.ends_connect_bind.2 (Or.inr ⟨es, session, es' ++ es'', hc, ?_, rfl⟩)
      refine Attempt.ends_certain_bind.2 ⟨es', (.ok (), c'), es'', hd, ?_, rfl⟩
      refine Attempt.ends_known_bind.2 (Or.inr ⟨(), rfl, ?_⟩)
      refine Attempt.ends_bind.2 (Or.inr ⟨es'', recorded, [], ?_, Attempt.ends_pure.2 ⟨rfl, rfl⟩,
        (List.append_nil es'').symm⟩)
      exact ends_recordStatus_certain_iff.2 ⟨recorded, hs, rfl⟩

theorem ends_edit {name : String} {change : Kube.FinalizerEdit} {error : Kube.Failure → Error}
    {es : Trace} {r : Except Error Cluster} :
    Attempt.Ends apiUrl (Finalizer.edit name change error) es r ↔
      ∃ answer, Asked (.editFinalizers name change) es answer ∧ r = answer.mapError error :=
  Attempt.ends_ofAccess.trans accessed_call

theorem ends_nameOf_bind {f : String → Attempt α} {es : Trace} {r : Except Error α} :
    Attempt.Ends apiUrl (Finalizer.nameOf c >>= f) es r ↔
      (c.metadata.name = none ∧ es = [] ∧ r = .error .unnamedObject) ∨
      ∃ name, c.metadata.name = some name ∧ Attempt.Ends apiUrl (f name) es r := by
  unfold Finalizer.nameOf
  rw [Attempt.ends_known_bind]
  cases c.metadata.name with
  | none =>
    constructor
    · rintro (⟨e, he, rfl, rfl⟩ | ⟨_, ha, _⟩)
      · cases he; exact Or.inl ⟨rfl, rfl, rfl⟩
      · cases ha
    · rintro (⟨_, rfl, rfl⟩ | ⟨_, hn, _⟩)
      · exact Or.inl ⟨_, rfl, rfl, rfl⟩
      · cases hn
  | some name =>
    constructor
    · rintro (⟨e, he, _, _⟩ | ⟨_, ha, h⟩)
      · cases he
      · cases ha; exact Or.inr ⟨name, rfl, h⟩
    · rintro (⟨hn, _, _⟩ | ⟨_, hn, h⟩)
      · cases hn
      · cases hn; exact Or.inr ⟨name, rfl, h⟩

/-- The end of the work that an edit of the finalizers follows. -/
theorem ends_edit_bind {name : String} {change : Kube.FinalizerEdit} {error : Kube.Failure → Error}
    {a : α} {es : Trace} {r : Except Error α} :
    Attempt.Ends apiUrl (do
      let _ ← Finalizer.edit name change error
      return a) es r ↔
      ∃ answer, Asked (.editFinalizers name change) es answer ∧
        r = (answer.map fun _ => a).mapError error := by
  rw [Attempt.ends_bind]
  constructor
  · rintro (⟨e, h, rfl⟩ | ⟨es₁, kept, es₂, h, h', rfl⟩)
    · obtain ⟨answer, ha, he⟩ := ends_edit.1 h
      cases answer with
      | error f => cases he; exact ⟨_, ha, rfl⟩
      | ok kept => cases he
    · obtain ⟨answer, ha, he⟩ := ends_edit.1 h
      obtain ⟨rfl, rfl⟩ := Attempt.ends_pure.1 h'
      rw [List.append_nil]
      cases answer with
      | error f => cases he
      | ok kept => exact ⟨_, ha, rfl⟩
  · rintro ⟨answer, ha, rfl⟩
    cases answer with
    | error f => exact Or.inl ⟨_, ends_edit.2 ⟨_, ha, rfl⟩, rfl⟩
    | ok kept =>
      exact Or.inr ⟨es, kept, [], ends_edit.2 ⟨_, ha, rfl⟩, Attempt.ends_pure.2 ⟨rfl, rfl⟩,
        (List.append_nil es).symm⟩

theorem ends_guarded_iff {es : Trace} {r : Except Error Action} :
    Attempt.Ends apiUrl (Finalizer.guarded (apply interval c) (cleanup c) c) es r ↔
      Guarding apiUrl interval c es r := by
  unfold Finalizer.guarded
  constructor
  · intro h
    split at h
    · rename_i index hi hd
      obtain ⟨r', ha, rfl⟩ := Attempt.ends_adapt.1 h
      exact .applied hi hd (ends_apply_iff.1 ha)
    · rename_i index hi hd
      rcases ends_nameOf_bind.1 h with ⟨hn, rfl, rfl⟩ | ⟨name, hn, h₁⟩
      · exact .nameless (by rw [hi, hd]; rfl) hn
      rcases Attempt.ends_bind.1 h₁ with ⟨e, h₂, rfl⟩ | ⟨es₁, action, es₂, h₂, h₃, rfl⟩
      · obtain ⟨r', hc, hr⟩ := Attempt.ends_adapt.1 h₂
        cases r' with
        | error e => cases hr; exact .uncleaned hi hd hn (ends_cleanup_iff.1 hc)
        | ok action => cases hr
      · obtain ⟨r', hc, hr⟩ := Attempt.ends_adapt.1 h₂
        obtain ⟨answer, ha, rfl⟩ := ends_edit_bind.1 h₃
        cases r' with
        | error e => cases hr
        | ok action => cases hr; exact .released hi hd hn (ends_cleanup_iff.1 hc) ha
    · rename_i hi hd
      rcases ends_nameOf_bind.1 h with ⟨hn, rfl, rfl⟩ | ⟨name, hn, h₁⟩
      · exact .nameless (by rw [hi, hd]; rfl) hn
      obtain ⟨answer, ha, rfl⟩ := ends_edit_bind.1 h₁
      exact .marked hi hd hn ha
    · rename_i hi hd
      obtain ⟨rfl, rfl⟩ := Attempt.ends_pure.1 h
      exact .ignored hi hd
  · intro h
    cases h with
    | applied hi hd ha =>
      rw [hi, hd]
      exact Attempt.ends_adapt.2 ⟨_, ends_apply_iff.2 ha, rfl⟩
    | uncleaned hi hd hn hc =>
      rw [hi, hd]
      refine ends_nameOf_bind.2 (Or.inr ⟨_, hn, Attempt.ends_bind.2 (Or.inl ⟨_, ?_, rfl⟩)⟩)
      exact Attempt.ends_adapt.2 ⟨_, ends_cleanup_iff.2 hc, rfl⟩
    | @released _ hi hd _ hn _ _ action _ hc ha =>
      rw [hi, hd]
      refine ends_nameOf_bind.2 (Or.inr ⟨_, hn, ?_⟩)
      refine Attempt.ends_bind.2 (Or.inr ⟨_, action, _, ?_, ?_, rfl⟩)
      · exact Attempt.ends_adapt.2 ⟨_, ends_cleanup_iff.2 hc, rfl⟩
      · exact ends_edit_bind.2 ⟨_, ha, rfl⟩
    | marked hi hd hn ha =>
      rw [hi, hd]
      exact ends_nameOf_bind.2 (Or.inr ⟨_, hn, ends_edit_bind.2 ⟨_, ha, rfl⟩⟩)
    | nameless hs hn =>
      cases hi : Finalizer.index? c <;> rw [hi] at hs <;> rw [← hs] <;>
        exact ends_nameOf_bind.2 (Or.inl ⟨hn, rfl, rfl⟩)
    | ignored hi hd =>
      rw [hi, hd]
      exact Attempt.ends_pure.2 ⟨rfl, rfl⟩

/-- **The whole of a reconcile** is counted when it starts and when it ends. -/
theorem run_exchanges_iff {config : Config} {tr : Trace} {r : Except Error Action} :
    (exchanges config c).Run tr r ↔
      ∃ es, Guarding config.apiUrl config.reconcileInterval c es r ∧
        tr = .record .reconcileStarted :: es ++ [.record (.reconcileEnded (!r.isOk))] := by
  have hb : (exchanges config c).Run tr r ↔
      (Prog.handle (I := Steps.interface) (Steps.exchange config.apiUrl)
        (run config.reconcileInterval c)).Run tr r := by
    unfold exchanges work
    rw [Prog.handle_handle]
    rfl
  have hr (event : Metrics.Event) {es : Trace} {u : Unit} :
      (Prog.handle (I := Steps.interface) (Steps.exchange config.apiUrl)
        (Prog.query (I := Steps.interface) (.record event))).Run es u ↔ es = [.record event] := by
    rw [Prog.handle_query (I := Steps.interface)]
    exact carried_record
  rw [hb]
  unfold run
  rw [Prog.bind_eq, Prog.handle_bind, Prog.run_bind_iff]
  constructor
  · rintro ⟨es₁, _, es₂, h₁, h₂, rfl⟩
    obtain rfl := (hr _).1 h₁
    rw [Prog.bind_eq, Prog.handle_bind, Prog.run_bind_iff] at h₂
    obtain ⟨es₃, result, es₄, h₃, h₄, rfl⟩ := h₂
    rw [Prog.bind_eq, Prog.handle_bind, Prog.run_bind_iff] at h₄
    obtain ⟨es₅, _, es₆, h₅, h₆, rfl⟩ := h₄
    obtain rfl := (hr _).1 h₅
    obtain ⟨rfl, rfl⟩ := Prog.run_done_iff.1 h₆
    exact ⟨es₃, ends_guarded_iff.1 h₃, rfl⟩
  · rintro ⟨es, h, rfl⟩
    refine ⟨[Event.record .reconcileStarted], (),
      es ++ [Event.record (.reconcileEnded (!r.isOk))], (hr _).2 rfl, ?_, rfl⟩
    rw [Prog.bind_eq, Prog.handle_bind, Prog.run_bind_iff]
    refine ⟨es, r, [Event.record (.reconcileEnded (!r.isOk))], ends_guarded_iff.2 h, ?_, rfl⟩
    rw [Prog.bind_eq, Prog.handle_bind, Prog.run_bind_iff]
    exact ⟨[Event.record (.reconcileEnded (!r.isOk))], (), [], (hr _).2 rfl, .done _, rfl⟩

end Reconcile

end ClusterKeeper
