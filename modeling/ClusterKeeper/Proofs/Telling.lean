import ClusterKeeper.Proofs.Conditions
import ClusterKeeper.Proofs.Publication
import ClusterKeeper.Proofs.Registry
import ClusterKeeper.Proofs.Release
import ClusterKeeper.Proofs.StoredStatus

/-!
# What is told of a cluster

A reconcile tells how a cluster is in two places: a status that it writes, and a gauge of the
registry. Few of its parts bear on either.

* `writtenStatus?`, `said?`: what an exchange writes to the status, and what it says of a gauge.
* `Within.written_eq_nil`, `Within.said_eq_nil`: exchanges that do neither, as those of most parts.
* `wrote_of_applying`: with success one status is written, and the delay is as it says. The gauge
  is set to what it says as well, or else a database is created and the gauge left.
* `said_of_cleaning`: the gauge is dropped.
-/

namespace ClusterKeeper

namespace Exchange

open Reconcile Metrics

/-! ## What is written and what is told -/

/-- The status that a request writes, if it writes one. -/
def writtenStatus? : Event → Option Status
  | ⟨.kube request, _⟩ =>
    if request.contentType = some "application/merge-patch+json" then
      request.body.bind Kube.statusOf?
    else none
  | _ => none

/-- What a registry is told. -/
def recorded? : Event → Option Metrics.Event
  | ⟨.record event, _⟩ => some event
  | _ => none

/-- What is said of the gauge of a name. -/
def said? (name : String) (e : Event) : Option (Option Bool) :=
  (recorded? e).bind (Metrics.Event.says? name)

variable {apiUrl name : String} {session : Session} {c c' : Cluster} {es : Trace} {interval : Nat}
  {action : Action}

/-- The status that a call sets. -/
def settingOf : Kube.Call → Option Status
  | .setStatus _ status => some status
  | _ => none

/-- Only the call that sets a status writes one. -/
theorem writtenStatus?_of_request {call : Kube.Call} {request : Kube.Request}
    (h : call.request = .ok request) (outcome : Http.Outcome) :
    writtenStatus? (.kube request outcome) = settingOf call := by
  have hwritten : writtenStatus? (.kube request outcome) =
      if request.contentType = some "application/merge-patch+json" then
        request.body.bind Kube.statusOf?
      else none := rfl
  rw [hwritten, Kube.Call.contentType_of_request h]
  cases call with
  | setStatus name status =>
    rw [Kube.Call.typeOf, if_pos rfl, (Kube.Request.targets_of_write h).body]
    exact Status.ofJson?_toJson status
  | setExternalName name id =>
    rw [Kube.Call.typeOf, if_pos rfl, (Kube.Request.targets_of_write h).body]
    rfl
  | getProviderConfig name => rfl
  | getSecret ns name => rfl
  | replaceCluster name cluster => simp [Kube.Call.typeOf, settingOf]
  | editFinalizers name edit => simp [Kube.Call.typeOf, settingOf]
  | applySecret reference secret => simp [Kube.Call.typeOf, settingOf]

/-- **Exchanges that set no status** write none. -/
theorem Within.written_eq_nil {kinds : List Kind} (h : Within kinds es) (hk : .status ∉ kinds) :
    es.filterMap writtenStatus? = [] := by
  refine List.filterMap_eq_nil_iff.2 fun e he => ?_
  cases h e he with
  | clock now => rfl
  | pause millis => rfl
  | record _ => rfl
  | database _ _ outcome => rfl
  | @kube call hc request hr outcome =>
    rw [writtenStatus?_of_request hr]
    cases call with
    | setStatus _ _ => exact absurd hc hk
    | _ => rfl

/-- **Exchanges that set no gauge** say nothing of one. -/
theorem Within.said_eq_nil {kinds : List Kind} (h : Within kinds es) (hk : .gauge ∉ kinds) :
    es.filterMap (said? name) = [] := by
  refine List.filterMap_eq_nil_iff.2 fun e he => ?_
  cases h e he with
  | clock now => rfl
  | pause millis => rfl
  | kube _ _ outcome => rfl
  | database _ _ outcome => rfl
  | @record event hc =>
    cases event with
    | availability _ _ => exact absurd hc hk
    | forgotten _ => exact absurd hc hk
    | _ => rfl

/-! ## What the parts write and tell -/

/-- A call to set a status that is answered writes it. -/
theorem written_of_asked {name : String} {status : Status}
    {kept : (Kube.Call.setStatus name status).Answer}
    (h : Asked (.setStatus name status) es (.ok kept)) :
    es.filterMap writtenStatus? = [status] := by
  rcases asked_iff.1 h with ⟨f, _, _, hf⟩ | ⟨request, outcome, hr, rfl, _⟩
  · cases hf
  · have hwritten : writtenStatus? (.kube request outcome) = some status :=
      writtenStatus?_of_request hr outcome
    rw [List.filterMap_cons, hwritten, List.filterMap_nil]

/-- **Recording a status** with success writes it. -/
theorem written_of_recordStatus {status : Status} (h : Accessed (Kube.recordStatus c) es (.ok ()))
    (hs : c.status = some status) : es.filterMap writtenStatus? = [status] := by
  have hrecording := accessed_recordStatus.1 h
  generalize hok : (.ok () : Except Error Unit) = r at hrecording
  cases hrecording with
  | unset hn => cases hs.symm.trans hn
  | @asked _ hs' _ answer ha =>
    cases hs.symm.trans hs'
    cases answer with
    | error f => cases hok
    | ok kept => exact written_of_asked ha

/-- A cluster whose database was created is being created. -/
theorem creating_of_create {details : ConnectionDetails}
    (h : Carried (Lifecycle.create session c) es (.ok details, c')) :
    0 < creations es ∧
      ∃ status, c'.status = some status ∧ status.readyReason? = some .creating := by
  have hnew {db : Database} {es es' : Trace} {now : Instant}
      (hc : Called session (Lifecycle.ask c) es (.ok (some db))) :
      0 < creations (Event.clock now :: es ++ es') := by
    rcases created_of_called "" hc with ⟨db', e, _, rfl, he⟩ | ⟨hne, _⟩
    · exact List.countP_pos_iff.2 ⟨e, by simp, Option.isSome_iff_exists.2 ⟨db', he⟩⟩
    · exact absurd rfl (hne db)
  have hcreate := Lifecycle.Creating.of_carried h
  generalize hp : ((.ok details, c') : Except Error ConnectionDetails × Cluster) = p at hcreate
  cases hcreate with
  | unnamed _ _ => cases hp
  | failed _ _ _ => cases hp
  | empty _ _ _ => cases hp
  | bound _ _ now hc =>
    cases hp
    exact ⟨hnew hc, _, rfl, Status.readyReason?_setCondition _ _ _⟩
  | detailed _ _ now hc _ =>
    cases hp
    exact ⟨hnew hc, _, rfl, Status.readyReason?_setCondition _ _ _⟩

/-- **A cluster whose database was found** is bound to it, and has a status. This says what the
remote status calls for, or else what it said before. -/
theorem settled_of_observe
    (h : Carried (Lifecycle.observe session c) es (.ok { present := true, upToDate := true }, c')) :
    c.externalName ≠ "" ∧ ∃ status, c'.status = some status ∧
      ∃ e ∈ es, ∃ db, fetched? e = some db ∧
        status.readyReason? = (Reason.ofRemoteStatus? db.status).or c.readyReason? := by
  have hobserve := Lifecycle.Observing.of_carried h
  generalize hp : ((.ok { present := true, upToDate := true }, c') :
    Except Error Sighting × Cluster) = p at hobserve
  cases hobserve with
  | unbound _ => cases hp
  | missing _ _ _ => cases hp
  | failed _ _ _ => cases hp
  | @found hn _ _ db _ hc ha =>
    obtain ⟨e, he, hf⟩ := List.exists_of_findSome?_eq_some (findSome?_of_called hc)
    -- what is stored on the way has the status as it was
    have hkept {c₁ : Cluster} {now : Instant} (hc' : c' = (c₁.observed db).settleStatus now)
        (hstatus : c₁.status = c.status) :
        ∃ status, c'.status = some status ∧
          status.readyReason? = (Reason.ofRemoteStatus? db.status).or c.readyReason? := by
      obtain ⟨status, hs⟩ := Cluster.exists_status_settled c₁ db now
      have hready := Cluster.readyReason?_settled c₁ db now
      have hbefore : c₁.readyReason? = c.readyReason? := by
        unfold Cluster.readyReason?
        rw [hstatus]
      rw [Cluster.readyReason?_of_status hs, hbefore] at hready
      exact ⟨status, hc' ▸ hs, hready⟩
    have hsettled : ∃ status, c'.status = some status ∧
        status.readyReason? = (Reason.ofRemoteStatus? db.status).or c.readyReason? := by
      cases ha with
      | settled _ now => exact hkept (Prod.mk.inj hp).2 rfl
      | unstored _ _ => cases hp
      | stored _ _ now => exact hkept (Prod.mk.inj hp).2 rfl
    obtain ⟨status, hs, hready⟩ := hsettled
    exact ⟨hn, status, hs, e, List.mem_append_left _ he, db, hf, hready⟩

/-- **Introducing with success** writes that the cluster is being created, and waits for that. -/
theorem wrote_of_introducing (h : Introducing session c es (.ok action)) :
    0 < creations es ∧ action = .requeue creatingInterval ∧
      ∃ status, es.filterMap writtenStatus? = [status] ∧
        status.readyReason? = some .creating := by
  cases h with
  | named hc hn hp =>
    cases hp with
    | presented hs hcr hp =>
      subst hcr
      obtain ⟨hpos, status, hst, hready⟩ := creating_of_create hc
      rw [creations_append]
      refine ⟨Nat.add_pos_left hpos _, rfl, status, ?_, hready⟩
      rw [List.filterMap_append, List.filterMap_append, List.filterMap_append,
        (within_of_create hc).written_eq_nil (by decide),
        (within_of_named hn).written_eq_nil (by decide), written_of_recordStatus hs hst,
        (within_of_publish hp).written_eq_nil (by decide)]
      rfl

/-- What is said of a gauge by keeping up a cluster. -/
theorem said_of_maintaining {r : Except Error Action} (h : Maintaining interval name c es r) :
    es.filterMap (said? name) = if r.isOk then [some (isAvailable c)] else [] := by
  cases h with
  | unrecorded hs => exact (within_of_recordStatus hs).said_eq_nil (by decide)
  | maintained hs =>
    have hsaid : said? name (.record (.availability name (isAvailable c))) =
        some (some (isAvailable c)) := if_pos rfl
    rw [List.filterMap_append, (within_of_recordStatus hs).said_eq_nil (by decide),
      List.filterMap_cons, hsaid]
    rfl

/-- **Maintaining with success** writes a status, sets the gauge to what it says, and waits as it
says. -/
theorem wrote_of_maintaining {status : Status}
    (h : Maintaining interval name c es (.ok action)) (hs : c.status = some status) :
    es.filterMap writtenStatus? = [status] ∧
      es.filterMap (said? name) = [some (status.readyReason? == some .available)] ∧
      action = .requeue (if status.readyReason? = some .creating then creatingInterval
        else interval) := by
  have hsaid := said_of_maintaining h
  have hready := Cluster.readyReason?_of_status hs
  rw [isAvailable, hready] at hsaid
  cases h with
  | maintained hst =>
    refine ⟨?_, hsaid, ?_⟩
    · rw [List.filterMap_append, written_of_recordStatus hst hs]
      rfl
    · rw [settledInterval, hready]

/-- **Applying with success** writes one status and waits as it says. Either a database is found:
the status says what this calls for, or else what it said before, and the gauge is set to it. Or
one is created, which the status says, and the gauge is left. -/
theorem wrote_of_applying (h : Applying apiUrl interval c es (.ok action)) :
    ∃ status, es.filterMap writtenStatus? = [status] ∧
      action = .requeue (if status.readyReason? = some .creating then creatingInterval
        else interval) ∧
      ((creations es = 0 ∧
          es.filterMap (said? c.anyName) = [some (status.readyReason? == some .available)] ∧
          ∃ e ∈ es, ∃ db, fetched? e = some db ∧
            status.readyReason? = (Reason.ofRemoteStatus? db.status).or c.readyReason?) ∨
        (0 < creations es ∧ es.filterMap (said? c.anyName) = [] ∧
          status.readyReason? = some .creating)) := by
  cases h with
  | absent hc ho hi =>
    have hwithin := (within_of_connect hc).append (within_of_observe ho)
    obtain ⟨hpos, hwaited, status, hwritten, hready⟩ := wrote_of_introducing hi
    refine ⟨status, ?_, ?_, Or.inr ⟨?_, ?_, hready⟩⟩
    · rw [← List.append_assoc, List.filterMap_append, hwithin.written_eq_nil (by decide), hwritten]
      rfl
    · rw [if_pos hready]
      exact hwaited
    · rw [creations_append, creations_append]
      omega
    · rw [← List.append_assoc]
      exact (hwithin.append (within_of_introducing hi)).said_eq_nil (by decide)
  | @present es₁ es₂ es₃ _ c' _ hc ho hm =>
    obtain ⟨_, status, hs, e, he, db, hf, hready⟩ := settled_of_observe ho
    obtain ⟨hwritten, hsaid, hwaited⟩ := wrote_of_maintaining hm hs
    have hwithin := (within_of_connect hc).append (within_of_observe ho)
    have hmem : e ∈ es₁ ++ (es₂ ++ es₃) := List.mem_append_right _ (List.mem_append_left _ he)
    refine ⟨status, ?_, hwaited, Or.inl ⟨?_, ?_, e, hmem, db, hf, hready⟩⟩
    · rw [← List.append_assoc, List.filterMap_append, hwithin.written_eq_nil (by decide), hwritten]
      rfl
    · rw [← List.append_assoc]
      exact creations_eq_zero
        ((hwithin.append (within_of_maintaining hm)).created_none (by decide))
    · rw [← List.append_assoc, List.filterMap_append, hwithin.said_eq_nil (by decide), hsaid]
      rfl

/-- **Cleaning** drops the gauge, however it ends. -/
theorem said_of_cleaning {r : Except Error Action} (h : Cleaning apiUrl c es r) :
    es.filterMap (said? c.anyName) = [none] := by
  have hforgotten {kinds : List Kind} {es : Trace} (hw : Within kinds es) (hk : .gauge ∉ kinds) :
      (Event.record (.forgotten c.anyName) :: es).filterMap (said? c.anyName) = [none] := by
    have hsaid : said? c.anyName (.record (.forgotten c.anyName)) = some none := if_pos rfl
    rw [List.filterMap_cons, hsaid, hw.said_eq_nil hk]
  cases h with
  | orphaned _ => exact hforgotten (within_nil []) (by decide)
  | unconnected _ hc => exact hforgotten (within_of_connect hc) (by decide)
  | undeleted _ hc hd =>
    exact hforgotten ((within_of_connect hc).append (within_of_delete hd)) (by decide)
  | deleted _ hc hd hs =>
    exact hforgotten ((within_of_connect hc).append
      ((within_of_delete hd).append (within_of_recordStatus hs))) (by decide)

end Exchange

end ClusterKeeper
