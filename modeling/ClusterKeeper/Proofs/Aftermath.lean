import ClusterKeeper.Proofs.Conditions
import ClusterKeeper.Proofs.Phases
import ClusterKeeper.Proofs.Publication
import ClusterKeeper.Proofs.Writes

/-!
# After a creation

A database that was created is lost if its identifier is, so that is recorded first. The status
follows, also where nothing was created, and last the connection details. What fails first ends it.

* `Presented`, `Aftermath`: what follows a creation, up to what fails.
* `Taken`: what a creation makes of the answer to its request.
* `aftermath_of_introducing`, `taken_of_create`: a cluster that is introduced.
* `aftermath_of_post`: so it goes after every request for a database.
-/

namespace ClusterKeeper.Exchange

open Reconcile

variable {apiUrl id : String} {interval : Nat} {session : Session} {c c' : Cluster}
  {status : Status} {creation : Except Error ConnectionDetails} {es tr : Trace} {e : Event}
  {r : Except Error Action}

/-! ## What follows a creation -/

/-- **The status is recorded**, then a failed creation shows, and then the details are published if
there are any and the cluster asks for them. What fails first ends it. -/
inductive Presented (c : Cluster) (status : Status) (creation : Except Error ConnectionDetails) :
    Trace → Except Error Action → Prop
  | unrecorded {outcome : Http.Outcome} {e : Error} (hs : statusFailed? c status outcome = some e) :
      Presented c status creation [.kube (c.statusRequest status) outcome] (.error e)
  | uncreated {outcome : Http.Outcome} {e : Error} (hs : statusFailed? c status outcome = none)
      (hc : creation = .error e) :
      Presented c status creation [.kube (c.statusRequest status) outcome] (.error e)
  | unasked {outcome : Http.Outcome} {details : ConnectionDetails}
      (hs : statusFailed? c status outcome = none) (hc : creation = .ok details)
      (hd : details.isEmpty = true ∨ c.spec.connectionSecretRef = none) :
      Presented c status creation [.kube (c.statusRequest status) outcome]
        (.ok (.requeue creatingInterval))
  | unpublished {outcome outcome' : Http.Outcome} {details : ConnectionDetails}
      {reference : SecretReference} {e : Error} (hs : statusFailed? c status outcome = none)
      (hc : creation = .ok details) (hd : details.isEmpty = false)
      (hr : c.spec.connectionSecretRef = some reference)
      (hp : secretFailed? c reference details outcome' = some e) :
      Presented c status creation [.kube (c.statusRequest status) outcome,
        .kube (c.secretRequest reference details) outcome'] (.error e)
  | published {outcome outcome' : Http.Outcome} {details : ConnectionDetails}
      {reference : SecretReference} (hs : statusFailed? c status outcome = none)
      (hc : creation = .ok details) (hd : details.isEmpty = false)
      (hr : c.spec.connectionSecretRef = some reference)
      (hp : secretFailed? c reference details outcome' = none) :
      Presented c status creation [.kube (c.statusRequest status) outcome,
        .kube (c.secretRequest reference details) outcome'] (.ok (.requeue creatingInterval))

theorem presented_of_presenting {r : Except Error Action} (hs : c.Served)
    (hc : c.Became id status c') (h : Presenting creation c' es r) :
    Presented c status creation es r := by
  cases h with
  | unrecorded hst =>
    obtain ⟨outcome, rfl, hfail⟩ := sent_of_recordStatus hs hc hst
    exact .unrecorded hfail.symm
  | uncreated hst hcr =>
    obtain ⟨outcome, rfl, hdone⟩ := sent_of_recordStatus hs hc hst
    exact .uncreated hdone.symm hcr
  | unpublished hst hcr hpub =>
    obtain ⟨outcome, rfl, hdone⟩ := sent_of_recordStatus hs hc hst
    rcases sent_of_publish hs hc hpub with ⟨-, -, hr⟩ | ⟨reference, outcome', hd, hr, rfl, hfail⟩
    · cases hr
    · exact .unpublished hdone.symm hcr hd hr hfail.symm
  | presented hst hcr hpub =>
    obtain ⟨outcome, rfl, hdone⟩ := sent_of_recordStatus hs hc hst
    rcases sent_of_publish hs hc hpub with ⟨hd, rfl, -⟩ | ⟨reference, outcome', hd, hr, rfl, hdone'⟩
    · exact .unasked hdone.symm hcr hd
    · exact .published hdone.symm hcr hd hr hdone'.symm

/-- **The aftermath of a creation**: the identifier is recorded if there is one, and then the status
and what follows it. -/
inductive Aftermath (c : Cluster) (id : String) (status : Status)
    (creation : Except Error ConnectionDetails) : Trace → Except Error Action → Prop
  | unnamed {es : Trace} {e : Error} (hid : id ≠ "")
      (hn : Tried (c.nameRequest id) (nameFailed? c id) nameAttempts es (some e)) :
      Aftermath c id status creation es (.error e)
  | named {es es' : Trace} {r : Except Error Action} (hid : id ≠ "")
      (hn : Tried (c.nameRequest id) (nameFailed? c id) nameAttempts es none)
      (h : Presented c status creation es' r) : Aftermath c id status creation (es ++ es') r
  | unbound {es : Trace} {r : Except Error Action} (hid : id = "")
      (h : Presented c status creation es r) : Aftermath c id status creation es r

/-- **Introducing** a cluster is a creation with its aftermath. -/
theorem aftermath_of_introducing {r : Except Error Action} (hs : c.Served)
    (h : Introducing session c es r) : ∃ es₁ creation c' es₂, es = es₁ ++ es₂ ∧
      Carried (Lifecycle.create session c) es₁ (creation, c') ∧
      ∀ id status, c.Became id status c' → Aftermath c id status creation es₂ r := by
  cases h with
  | @unnamed es₁ es₂ creation c' e hcreate hb hn =>
    refine ⟨es₁, creation, c', es₂, rfl, hcreate, fun id status hc => ?_⟩
    rw [hc.externalName] at hb
    exact .unnamed hb (tried_of_naming hs hc hn)
  | @named es₁ es₂ es₃ creation c' r hcreate hn hp =>
    refine ⟨es₁, creation, c', es₂ ++ es₃, rfl, hcreate, fun id status hc => ?_⟩
    have hpresented := presented_of_presenting hs hc hp
    cases hn with
    | unbound hb =>
      rw [hc.externalName] at hb
      exact .unbound hb hpresented
    | recorded hb hn =>
      rw [hc.externalName] at hb
      exact .named hb (tried_of_naming hs hc hn) hpresented

/-! ## The request for a database -/

/-- **The details of a new database**, for a cluster that asks for them, with what is exchanged for
them. -/
inductive Detailed (session : Session) (c : Cluster) (db : Database) :
    Trace → ConnectionDetails → Prop
  | unasked (h : c.spec.connectionSecretRef = none) : Detailed session c db [] .empty
  | asked (h : c.spec.connectionSecretRef.isSome = true) {es : Trace} {details : ConnectionDetails}
      (hf : Lifecycle.Fetching session db es details) : Detailed session c db es details

/-- **What a creation makes of an answer**: what it goes on to exchange, what it gives, and the
identifier of the cluster from then on. Without a database it is an error, and the identifier stays
as it was. -/
inductive Taken (session : Session) (c : Cluster) :
    Except CallFailure (Option Database) → Trace → Except Error ConnectionDetails → String → Prop
  | created {db : Database} {es : Trace} {details : ConnectionDetails}
      (h : Detailed session c db es details) :
      Taken session c (.ok (some db)) (Lifecycle.counted "create" true :: es) (.ok details) db.id
  | empty : Taken session c (.ok none) [Lifecycle.counted "create" false]
      (.error (.emptyResponse Error.createContext)) c.externalName
  | refused (f : CallFailure) : Taken session c (.error f) [Lifecycle.counted "create" false]
      (.error (.remote Error.createContext f)) c.externalName

/-- What the request for a database is answered. -/
abbrev answerOf (c : Cluster) (request : DatabaseRequest) (outcome : Http.Outcome) :
    Except CallFailure (Option Database) :=
  DatabaseCall.interpret request.url outcome (Lifecycle.ask c)

theorem changes_of_taken {answer : Except CallFailure (Option Database)}
    (h : Taken session c answer es creation id) : ∀ e ∈ es, changes e = false := by
  cases h with
  | created hd =>
    refine List.forall_mem_cons.2 ⟨rfl, ?_⟩
    cases hd with
    | unasked _ => exact List.forall_mem_nil _
    | asked _ hf =>
      cases hf with
      | own _ => exact List.forall_mem_nil _
      | fetched _ hc => exact (within_of_fetched hc).changes_false (by decide)
      | unfetched _ hc => exact (within_of_fetched hc).changes_false (by decide)
  | empty => exact List.forall_mem_singleton.2 rfl
  | refused f => exact List.forall_mem_singleton.2 rfl

/-- The status of a cluster whose database is being created. -/
def creatingStatus (c : Cluster) (now : Instant) : Status :=
  (c.status.getD {}).setCondition (Reason.creating.condition now)

theorem became_unbound (c : Cluster) (now : Instant) :
    c.Became c.externalName (creatingStatus c now) (c.setReady .creating now) :=
  ⟨rfl, rfl, rfl, rfl, fun _ _ => rfl⟩

theorem became_bound (c : Cluster) (now : Instant) (id : String) :
    c.Became id (creatingStatus c now) ((c.setReady .creating now).setExternalName id) :=
  ⟨externalName_setExternalName _ id, rfl, rfl, rfl, fun _ _ => rfl⟩

/-- **A creation** asks for no database, or for one: then it goes on as it is answered. In any case
the cluster is being created. -/
theorem taken_of_create (h : Carried (Lifecycle.create session c) es (creation, c')) :
    ∃ id status, c.Became id status c' ∧ status.readyReason? = some .creating ∧
      ((∀ e ∈ es, changes e = false) ∨ ∃ now request outcome later,
        es = .clock now :: .database request outcome :: later ∧
        session.request (Lifecycle.ask c) = .ok request ∧
        Taken session c (answerOf c request outcome) later creation id) := by
  -- a request that cannot be sent leaves no event, one that is sent comes right after the clock
  have hsent {now : Instant} {es later : Trace} {id : String}
      {a : Except CallFailure (Lifecycle.ask c).Answer} (hc : Called session (Lifecycle.ask c) es a)
      (ha : Taken session c a later creation id) :
      (∀ e ∈ Event.clock now :: es ++ later, changes e = false) ∨ ∃ now' request outcome later',
        Event.clock now :: es ++ later = .clock now' :: .database request outcome :: later' ∧
        session.request (Lifecycle.ask c) = .ok request ∧
        Taken session c (answerOf c request outcome) later' creation id := by
    cases hc with
    | refused _ => exact .inl (List.forall_mem_cons.2 ⟨rfl, changes_of_taken ha⟩)
    | @sent request hr outcome => exact .inr ⟨now, request, outcome, later, rfl, hr, ha⟩
  have hready (now : Instant) : (creatingStatus c now).readyReason? = some .creating :=
    (c.status.getD {}).readyReason?_setCondition .creating now
  have hcreate := Lifecycle.Creating.of_carried h
  generalize hp : (creation, c') = p at hcreate
  cases hcreate with
  | unnamed _ now =>
    cases hp
    exact ⟨_, _, became_unbound c now, hready now, .inl (List.forall_mem_singleton.2 rfl)⟩
  | failed _ now hc =>
    cases hp
    exact ⟨_, _, became_unbound c now, hready now, hsent hc (.refused _)⟩
  | empty _ now hc =>
    cases hp
    exact ⟨_, _, became_unbound c now, hready now, hsent hc .empty⟩
  | bound _ hnone now hc =>
    cases hp
    exact ⟨_, _, became_bound c now _, hready now, hsent hc (.created (.unasked hnone))⟩
  | detailed _ hsome now hc hd =>
    cases hp
    exact ⟨_, _, became_bound c now _, hready now, hsent hc (.created (.asked hsome hd))⟩

theorem changes_of_tries {request : Kube.Request} {last : Http.Outcome}
    {outcomes : List Http.Outcome} : ∀ e ∈ tries request last outcomes, changes e = false := by
  induction outcomes with
  | nil => exact List.forall_mem_singleton.2 rfl
  | cons outcome outcomes ih =>
    exact List.forall_mem_cons.2 ⟨rfl, List.forall_mem_cons.2 ⟨rfl, ih⟩⟩

/-- The aftermath changes nothing at the remote API. -/
theorem changes_of_aftermath (h : Aftermath c id status creation es r) :
    ∀ e ∈ es, changes e = false := by
  have htried {n : Nat} {es : Trace} {stopped : Option Error}
      (h : Tried (c.nameRequest id) (nameFailed? c id) n es stopped) :
      ∀ e ∈ es, changes e = false := by
    cases h with
    | tried outcomes last _ _ => exact changes_of_tries
  have hpresented {es : Trace} (h : Presented c status creation es r) :
      ∀ e ∈ es, changes e = false := by
    cases h <;> simp [changes, asks]
  cases h with
  | unnamed _ hn => exact htried hn
  | named _ hn hp => exact List.forall_mem_append.2 ⟨htried hn, hpresented hp⟩
  | unbound _ hp => exact hpresented hp

/-- **Only a cluster that is introduced** has anything changed at the remote API, and not before. -/
theorem introducing_of_changes (h : Applying apiUrl interval c tr r) (he : e ∈ tr)
    (hc : changes e = true) : ∃ es session es', tr = es ++ es' ∧ (∀ e ∈ es, changes e = false) ∧
      Introducing session c es' r := by
  have hnever {es : Trace} (hes : ∀ e ∈ es, changes e = false) (he : e ∈ es) : False := by
    rw [hes e he] at hc
    cases hc
  -- in all cases but the last the remote API is only looked at
  cases h with
  | unconnected hc => exact (hnever ((within_of_connect hc).changes_false (by decide)) he).elim
  | unobserved hc ho =>
    have hwithin := (within_of_connect hc).append (within_of_observe ho)
    exact (hnever (hwithin.changes_false (by decide)) he).elim
  | present hc ho hm =>
    have hwithin := (within_of_connect hc).append
      ((within_of_observe ho).append (within_of_maintaining hm))
    exact (hnever (hwithin.changes_false (by decide)) he).elim
  | @absent es₁ es₂ es₃ session _ hc ho hi =>
    have hwithin := (within_of_connect hc).append (within_of_observe ho)
    exact ⟨es₁ ++ es₂, session, es₃, (List.append_assoc _ _ _).symm,
      hwithin.changes_false (by decide), hi⟩

/-- **The aftermath of every request for a database.** Take a cluster that is served, and work on it
that asks for a database. If one is answered, its identifier becomes that of the cluster, and its
details are its own, or those of the database that is fetched next, if the cluster asks for any. If
none is answered, the creation is an error, and the identifier stays. Either way the identifier, if
there is one, is then sent to the store up to three times until it is recorded; then a status with
the reason Creating; then the error of the creation shows, or its details are published. The first
of these that fails ends the work with its error, and if none does it ends with success. -/
theorem aftermath_of_post {pre post : Trace} {request : DatabaseRequest} {outcome : Http.Outcome}
    (hs : c.Served) (hm : request.method = .post)
    (h : Attempt.Ends apiUrl (apply interval c) (pre ++ .database request outcome :: post) r) :
    ∃ session id status creation es es', post = es ++ es' ∧
      session.request (Lifecycle.ask c) = .ok request ∧
      Taken session c (answerOf c request outcome) es creation id ∧
      status.readyReason? = some .creating ∧ Aftermath c id status creation es' r := by
  have hchange : changes (.database request outcome) = true := by simp [changes, asks, hm]
  have hmem : Event.database request outcome ∈ pre ++ .database request outcome :: post :=
    List.mem_append_right _ List.mem_cons_self
  obtain ⟨es₁, session, es₂, htr, hbefore, hi⟩ :=
    introducing_of_changes (ends_apply_iff.1 h) hmem hchange
  obtain ⟨es₃, creation, c', es₄, rfl, hcreate, hafter⟩ := aftermath_of_introducing hs hi
  obtain ⟨id, status, hbecame, hready, hcase⟩ := taken_of_create hcreate
  have haftermath := hafter id status hbecame
  have hlater := changes_of_aftermath haftermath
  rcases hcase with hnone | ⟨now, request', outcome', es₅, rfl, hr, htaken⟩
  · -- the request would be nowhere
    have hall : ∀ e ∈ es₁ ++ (es₃ ++ es₄), changes e = false :=
      List.forall_mem_append.2 ⟨hbefore, List.forall_mem_append.2 ⟨hnone, hlater⟩⟩
    rw [htr] at hmem
    rw [hall _ hmem] at hchange
    cases hchange
  · have hsplit : (es₁ ++ [Event.clock now]) ++ .database request' outcome' :: (es₅ ++ es₄) =
        pre ++ .database request outcome :: post := by
      rw [htr]
      simp only [List.append_assoc, List.cons_append, List.nil_append]
    have hclock : ∀ e ∈ es₁ ++ [Event.clock now], changes e = false :=
      List.forall_mem_append.2 ⟨hbefore, List.forall_mem_singleton.2 rfl⟩
    have hrest : ∀ e ∈ es₅ ++ es₄, changes e = false :=
      List.forall_mem_append.2 ⟨changes_of_taken htaken, hlater⟩
    -- the request is the only one, so it is found in one place
    obtain ⟨rfl, heq⟩ := eq_of_append_cons hclock hrest hchange hsplit
    cases heq
    obtain rfl : post = es₅ ++ es₄ := (List.cons.inj (List.append_cancel_left hsplit)).2.symm
    exact ⟨session, id, status, creation, es₅, es₄, rfl, hr, htaken, hready, haftermath⟩

theorem exists_post_of_newDetails (h : newDetails tr ≠ none) :
    ∃ request outcome, Event.database request outcome ∈ tr ∧ request.method = .post := by
  by_contra hnone
  refine h (newDetails_eq_none fun e he => ?_)
  unfold created?
  split
  · rename_i request r
    have hm : request.method ≠ .post := fun hm => hnone ⟨request, .response r, he, hm⟩
    rw [if_neg fun h => hm h.1]
  · rfl

namespace Sample

theorem served_cluster : (cluster "").Served where
  named := by decide
  cluster := by decide
  status := by decide
  secret := by
    intro reference hr
    obtain rfl := Option.some.inj hr
    decide

end Sample

open Sample in
/-- A cluster without a database is introduced, and nothing fails. -/
theorem aftermath_of_post_ready : ∃ pre request outcome es es' session id status creation action,
    Attempt.Ends config.apiUrl (apply config.reconcileInterval (cluster ""))
        (pre ++ .database request outcome :: (es ++ es')) (.ok action) ∧
      Taken session (cluster "") (answerOf (cluster "") request outcome) es creation id ∧
      status.readyReason? = some .creating ∧
      Aftermath (cluster "") id status creation es' (.ok action) := by
  obtain ⟨hok, hnew⟩ := newDetails_readyAtOnce
  obtain ⟨action, hrun⟩ := run_play_of_isOk hok
  have hguarded : Finalizer.index? (cluster "") = some 0 := by decide
  obtain ⟨tr, htr, happ⟩ := applying_of_ok hrun hguarded rfl
  have hnew' : newDetails (play readyAtOnce (cluster "")).1 ≠ none := by
    intro hnone
    rw [hnone] at hnew
    cases hnew
  obtain ⟨request, outcome, he, hm⟩ := exists_post_of_newDetails hnew'
  have he' : Event.database request outcome ∈ tr := by
    rw [htr] at he
    simpa using he
  obtain ⟨pre, post, rfl⟩ := List.append_of_mem he'
  have hends := ends_apply_iff.2 happ
  obtain ⟨session, id, status, creation, es, es', rfl, -, htaken, hready, haftermath⟩ :=
    aftermath_of_post served_cluster hm hends
  exact ⟨pre, request, outcome, es, es', session, id, status, creation, action, hends, htaken,
    hready, haftermath⟩

end ClusterKeeper.Exchange
