import ClusterKeeper.Proofs.History
import Mathlib.Data.List.Basic

/-!
# Releasing a deleted cluster

A cluster that is being deleted is released, which is to say that its finalizer is removed, once
its database cannot be left behind unnoticed.

* `run_deleted_iff`: how the reconcile of a deleted cluster can go.
* `Connected`, `Gone`: what shows in the exchanges that connecting succeeded, and that there is no
  database any more.
* `released_iff_settled`: when the finalizer is removed, and what does not matter to it.
-/

namespace ClusterKeeper.Exchange

open Reconcile Lifecycle

/-- The request that removes the finalizer at an index. -/
def release (name : String) (index : Nat) : Kube.Request where
  method := .patch
  path := s!"{Kube.Call.clusterPlace}/{name}"
  query := some ""
  contentType := some "application/json-patch+json"
  body := some (Kube.FinalizerEdit.remove index Finalizer.name).toJson

/-- A call of the object store was answered with an object. -/
def Answered (call : Kube.Call) (tr : Trace) (a : call.Answer) : Prop :=
  ∃ request outcome, call.request = .ok request ∧ Event.kube request outcome ∈ tr ∧
    call.interpret outcome = .ok a

/-- **Connecting succeeded**: the provider configuration was read, then the secret that it
selects, and the token in it opens the session. -/
def Connected (apiUrl : String) (c : Cluster) (tr : Trace) (session : Session) : Prop :=
  ∃ (p : ProviderConfig) (s : SecretKeySelector) (secret : Secret) (token : String),
    Answered (readConfig c) tr p ∧ p.selector = .ok s ∧ Answered (readSecret s) tr secret ∧
      p.token secret = .ok token ∧ Session.start apiUrl token = .ok session

/-- **The database is gone**: the request to delete it was answered with success, or with the
status that says that there is none. -/
def Gone (session : Session) (id : String) (tr : Trace) : Prop :=
  ∃ request r, session.request (.delete id) = .ok request ∧
    Event.database request (.response r) ∈ tr ∧ (Http.isSuccess r.status = true ∨ r.status = 404)

variable {config : Config} {apiUrl name : String} {index : Nat} {session : Session}
  {c : Cluster} {tr es es' : Trace} {r : Except Error Action}

section Connecting

theorem Answered.of_asked {call : Kube.Call} {a : call.Answer} (h : Asked call es (.ok a))
    (hsub : ∀ e ∈ es, e ∈ tr) : Answered call tr a := by
  rcases asked_iff.1 h with ⟨f, _, _, ha⟩ | ⟨request, outcome, hr, rfl, ha⟩
  · cases ha
  · exact ⟨request, outcome, hr, hsub _ List.mem_cons_self, ha.symm⟩

/-- A call that is made once is answered with what it gives. -/
theorem Answered.eq_of_asked {call : Kube.Call} {a : Except Kube.Failure call.Answer}
    {b : call.Answer} (hb : Answered call tr b) (ha : Asked call es a)
    (hk : ∀ request outcome, call.request = .ok request → Event.kube request outcome ∈ tr →
      Event.kube request outcome ∈ es) : a = .ok b := by
  obtain ⟨request, outcome, hr, he, hi⟩ := hb
  replace he := hk request outcome hr he
  rcases asked_iff.1 ha with ⟨f, hf, rfl, rfl⟩ | ⟨request', outcome', hr', rfl, rfl⟩
  · cases he
  · cases List.mem_singleton.1 he
    exact hi

/-- No request reads both a provider configuration and a secret. -/
theorem request_readConfig_ne {s : SecretKeySelector} {request : Kube.Request}
    (h : (readConfig c).request = .ok request) : (readSecret s).request ≠ .ok request := by
  intro hs
  have hplace : "/apis/".toList ++ "do.crossplane.io/v1alpha1/providerconfigs/".toList =
      (Kube.Call.providerConfigPlace ++ "/").toList := by decide
  have ht : s!"{Kube.Call.providerConfigPlace}/{c.spec.providerConfigRef.name}".toList =
      "/apis/".toList ++ ("do.crossplane.io/v1alpha1/providerconfigs/".toList ++
        c.spec.providerConfigRef.name.toList) := by
    rw [String.toList_append, ← List.append_assoc, hplace]
    rfl
  have hp := (Kube.Request.targets_of_read h).path_append ht (List.all_eq_true.1 (by decide))
  exact Kube.path_of_getSecret hs _ hp

theorem readConfig_mem {s : SecretKeySelector} {a : Except Kube.Failure Secret}
    (h : Asked (readSecret s) es' a) (request : Kube.Request) (outcome : Http.Outcome)
    (hr : (readConfig c).request = .ok request) (he : Event.kube request outcome ∈ es ++ es') :
    Event.kube request outcome ∈ es := by
  refine (List.mem_append.1 he).resolve_right fun he => ?_
  cases made_of_asked h _ he with
  | kube hk hr' _ =>
    subst hk
    exact request_readConfig_ne hr hr'

theorem readSecret_mem {s : SecretKeySelector} {a : Except Kube.Failure ProviderConfig}
    (h : Asked (readConfig c) es a) (request : Kube.Request) (outcome : Http.Outcome)
    (hr : (readSecret s).request = .ok request) (he : Event.kube request outcome ∈ es ++ es') :
    Event.kube request outcome ∈ es' := by
  refine (List.mem_append.1 he).resolve_left fun he => ?_
  cases made_of_asked h _ he with
  | kube hk hr' _ =>
    subst hk
    exact request_readConfig_ne hr' hr

/-- **Connecting shows** in the exchanges that it makes. -/
theorem connected_of_connecting (h : Connecting apiUrl c es (.ok session))
    (hsub : ∀ e ∈ es, e ∈ tr) : Connected apiUrl c tr session := by
  cases h with
  | connected h₁ hs h₂ ht hc =>
    rw [List.forall_mem_append] at hsub
    exact ⟨_, _, _, _, .of_asked h₁ hsub.1, hs, .of_asked h₂ hsub.2, ht, hc⟩

/-- What shows as connected has connected. -/
theorem connecting_of_connected {r : Except Error Session} (h : Connecting apiUrl c es r)
    (hc : Connected apiUrl c es session) : r = .ok session := by
  obtain ⟨p, s, secret, token, hp, hs, hsecret, ht, hsession⟩ := hc
  cases h with
  | noConfig h₁ => cases hp.eq_of_asked h₁ fun _ _ _ => id
  | noSelector h₁ hs' =>
    cases hp.eq_of_asked h₁ fun _ _ _ => id
    cases hs.symm.trans hs'
  | noSecret h₁ hs' h₂ =>
    cases hp.eq_of_asked h₁ (readConfig_mem h₂)
    cases hs.symm.trans hs'
    cases hsecret.eq_of_asked h₂ (readSecret_mem h₁)
  | noToken h₁ hs' h₂ ht' =>
    cases hp.eq_of_asked h₁ (readConfig_mem h₂)
    cases hs.symm.trans hs'
    cases hsecret.eq_of_asked h₂ (readSecret_mem h₁)
    cases ht.symm.trans ht'
  | noClient h₁ hs' h₂ ht' hc' =>
    cases hp.eq_of_asked h₁ (readConfig_mem h₂)
    cases hs.symm.trans hs'
    cases hsecret.eq_of_asked h₂ (readSecret_mem h₁)
    cases ht.symm.trans ht'
    cases hsession.symm.trans hc'
  | connected h₁ hs' h₂ ht' hc' =>
    cases hp.eq_of_asked h₁ (readConfig_mem h₂)
    cases hs.symm.trans hs'
    cases hsecret.eq_of_asked h₂ (readSecret_mem h₁)
    cases ht.symm.trans ht'
    cases hc'.symm.trans hsession
    rfl

end Connecting

section Deleting

/-- **Deleting a database** that the cluster is bound to is calling for it to be deleted. -/
theorem called_of_deleting {result : Except Error Unit} {c' : Cluster}
    (h : Deleting session c es (result, c')) (hb : c.externalName ≠ "") :
    ∃ now es' a success, Called session (.delete c.externalName) es' a ∧
      es = .clock now :: es' ++ [counted "delete" success] ∧ result.isOk = isGone a := by
  cases h with
  | unbound hn now => exact absurd hn hb
  | deleted _ now hc => exact ⟨now, _, _, _, hc, rfl, rfl⟩
  | missing _ now hc hf => exact ⟨now, _, _, _, hc, rfl, hf.symm⟩
  | failed _ now hc hf => exact ⟨now, _, _, _, hc, rfl, hf.symm⟩

theorem isOk_of_unbound {result : Except Error Unit} {c' : Cluster}
    (h : Deleting session c es (result, c')) (hb : c.externalName = "") : result.isOk = true := by
  cases h with
  | unbound _ now => rfl
  | deleted hn _ _ => exact absurd hb hn
  | missing hn _ _ _ => exact absurd hb hn
  | failed hn _ _ _ => exact absurd hb hn

/-- What is deleted shows as gone. -/
theorem gone_of_deleting {result : Except Error Unit} {c' : Cluster}
    (h : Deleting session c es (result, c')) (hb : c.externalName ≠ "") (hok : result.isOk = true)
    (hsub : ∀ e ∈ es, e ∈ tr) : Gone session c.externalName tr := by
  obtain ⟨now, es', a, success, hc, rfl, ha⟩ := called_of_deleting h hb
  rw [hok] at ha
  cases hc with
  | refused hf =>
    rw [isGone, isNotFound_of_request_error hf] at ha
    cases ha
  | @sent request hr outcome =>
    obtain ⟨response, rfl, hs⟩ := isGone_interpret_iff.1 ha.symm
    exact ⟨request, response, hr, hsub _ (by simp), hs⟩

/-- What shows as gone is deleted. -/
theorem isOk_of_gone {session' : Session} {result : Except Error Unit} {c' : Cluster}
    (h : Deleting session c es (result, c'))
    (hg : Gone session' c.externalName es) : result.isOk = true := by
  obtain ⟨request, response, _, he, hs⟩ := hg
  by_cases hb : c.externalName = ""
  · exact isOk_of_unbound h hb
  obtain ⟨now, es', a, success, hc, rfl, ha⟩ := called_of_deleting h hb
  rw [ha]
  cases hc with
  | refused hf => simp at he
  | @sent request' hr outcome =>
    have ho : request = request' ∧ .response response = outcome := by simpa using he
    exact isGone_interpret_iff.2 ⟨response, ho.2.symm, hs⟩

end Deleting

/-- A deleted cluster that carries the finalizer, under a name that requests can be addressed
to. -/
structure Leaving (c : Cluster) (name : String) (index : Nat) : Prop where
  named : c.metadata.name = some name
  addressable : Kube.Addressable name
  deleted : Finalizer.isDeleted c = true
  guarded : Finalizer.index? c = some index

/-- The exchanges of a reconcile with its counts around them. -/
abbrev countedRound (es : Trace) (failed : Bool) : Trace :=
  Event.record .reconcileStarted :: es ++ [.record (.reconcileEnded failed)]

/-- What a reconcile gives once the finalizer is to be removed. -/
def removal (name : String) (index : Nat) (action : Action) (outcome : Http.Outcome) :
    Except Error Action :=
  ((Kube.Call.interpret (.editFinalizers name (.remove index Finalizer.name)) outcome).map
    fun _ => action).mapError .removeFinalizer

/-- **The reconcile of a deleted cluster**: a cleanup that fails, or one that ends well and then
the request that removes the finalizer. -/
theorem run_deleted_iff (hl : Leaving c name index) : (exchanges config c).Run tr r ↔
    (∃ es e, Cleaning config.apiUrl c es (.error e) ∧ r = .error (.cleanupFailed e) ∧
      tr = countedRound es true) ∨
    ∃ es action outcome, Cleaning config.apiUrl c es (.ok action) ∧
      r = removal name index action outcome ∧
      tr = countedRound (es ++ [.kube (release name index) outcome]) (!r.isOk) := by
  have hrequest := Kube.request_editFinalizers hl.addressable (.remove index Finalizer.name)
  rw [run_exchanges_iff]
  constructor
  · rintro ⟨es, hg, rfl⟩
    cases hg with
    | applied _ hd _ => exact absurd (hd.symm.trans hl.deleted) Bool.false_ne_true
    | marked _ hd _ _ => exact absurd (hd.symm.trans hl.deleted) Bool.false_ne_true
    | nameless _ hn => cases hn.symm.trans hl.named
    | ignored hi _ => cases hi.symm.trans hl.guarded
    | uncleaned _ _ _ hc => exact Or.inl ⟨_, _, hc, rfl, rfl⟩
    | released hi _ hn hc ha =>
      cases hi.symm.trans hl.guarded
      cases hn.symm.trans hl.named
      rcases asked_iff.1 ha with ⟨f, hf, _, _⟩ | ⟨request, outcome, hr, rfl, rfl⟩
      · cases hrequest.symm.trans hf
      · cases hrequest.symm.trans hr
        exact Or.inr ⟨_, _, outcome, hc, rfl, rfl⟩
  · rintro (⟨es, e, hc, rfl, rfl⟩ | ⟨es, action, outcome, hc, rfl, rfl⟩)
    · exact ⟨es, .uncleaned hl.guarded hl.deleted hl.named hc, rfl⟩
    · exact ⟨_, .released hl.guarded hl.deleted hl.named hc (.sent hrequest outcome), rfl⟩

variable {request : Kube.Request} {outcome : Http.Outcome} {failed : Bool}

theorem kube_mem_countedRound :
    Event.kube request outcome ∈ countedRound es failed ↔ Event.kube request outcome ∈ es := by
  simp

theorem database_mem_countedRound {request : DatabaseRequest} :
    Event.database request outcome ∈ countedRound es failed ↔
      Event.database request outcome ∈ es := by
  simp

theorem Answered.imp {call : Kube.Call} {a : call.Answer} (h : Answered call tr a)
    (hk : ∀ request outcome, Event.kube request outcome ∈ tr → Event.kube request outcome ∈ es) :
    Answered call es a := by
  obtain ⟨request, outcome, hr, he, hi⟩ := h
  exact ⟨request, outcome, hr, hk _ _ he, hi⟩

theorem Connected.imp (h : Connected apiUrl c tr session)
    (hk : ∀ request outcome, Event.kube request outcome ∈ tr → Event.kube request outcome ∈ es) :
    Connected apiUrl c es session := by
  obtain ⟨p, s, secret, token, hp, hs, hsecret, ht, hsession⟩ := h
  exact ⟨p, s, secret, token, hp.imp hk, hs, hsecret.imp hk, ht, hsession⟩

theorem Gone.imp {id : String} (h : Gone session id tr)
    (hd : ∀ request outcome, Event.database request outcome ∈ tr →
      Event.database request outcome ∈ es) : Gone session id es := by
  obtain ⟨request, response, hr, he, hs⟩ := h
  exact ⟨request, response, hr, hd _ _ he, hs⟩

/-- Connecting reads, so that its requests have no bodies. -/
theorem contentType_of_connect {r : Except Error Session} (h : Carried (connect apiUrl c) es r)
    (he : Event.kube request outcome ∈ es) : request.contentType = none := by
  cases within_of_connect h _ he with
  | @kube call hk _ hr _ =>
    rw [Kube.Call.contentType_of_request hr]
    cases call with
    | getProviderConfig _ => rfl
    | getSecret _ _ => rfl
    | _ => cases List.mem_singleton.1 hk

theorem kube_not_mem_delete {p : Except Error Unit × Cluster}
    (h : Carried (delete session c) es p) : Event.kube request outcome ∉ es := by
  intro he
  cases within_of_delete h _ he with
  | @kube call hk _ _ _ => cases call <;> simp [Kind.ofKube] at hk

/-- A cleanup that fails sends nothing with a body to the object store. -/
theorem contentType_of_failed {e : Error} (h : Cleaning apiUrl c es (.error e))
    (he : Event.kube request outcome ∈ es) : request.contentType = none := by
  cases h with
  | unconnected _ hc =>
    exact contentType_of_connect hc ((List.mem_cons.1 he).resolve_left nofun)
  | undeleted _ hc hd =>
    rcases List.mem_append.1 ((List.mem_cons.1 he).resolve_left nofun) with he | he
    · exact contentType_of_connect hc he
    · exact absurd he (kube_not_mem_delete hd)

/-- A cleanup that ends well shows why. -/
theorem settled_of_cleaning {action : Action} (h : Cleaning apiUrl c es (.ok action))
    (hsub : ∀ e ∈ es, e ∈ tr) : c.spec.deletionPolicy = .orphan ∨
      ∃ session, Connected apiUrl c tr session ∧
        (c.externalName = "" ∨ Gone session c.externalName tr) := by
  cases h with
  | orphaned ho => exact Or.inl ho
  | @deleted ho _ _ _ session _ _ hc hd hs =>
    rw [List.forall_mem_cons, List.forall_mem_append, List.forall_mem_append] at hsub
    refine Or.inr ⟨session, connected_of_connecting (.of_carried hc) hsub.2.1, ?_⟩
    by_cases hb : c.externalName = ""
    · exact Or.inl hb
    · exact Or.inr (gone_of_deleting (.of_carried hd) hb rfl hsub.2.2.1)

/-- A cleanup that fails has no reason to end well. -/
theorem not_settled_of_failed {e : Error} (h : Cleaning apiUrl c es (.error e)) :
    c.spec.deletionPolicy ≠ .orphan ∧ ∀ session, Connected apiUrl c es session →
      c.externalName ≠ "" ∧ ¬ Gone session c.externalName es := by
  cases h with
  | @unconnected ho es e hc =>
    refine ⟨ho, fun session hconnected => ?_⟩
    have hk (request : Kube.Request) (outcome : Http.Outcome)
        (he : Event.kube request outcome ∈ Event.record (.forgotten c.anyName) :: es) :
        Event.kube request outcome ∈ es := (List.mem_cons.1 he).resolve_left nofun
    cases connecting_of_connected (.of_carried hc) (hconnected.imp hk)
  | @undeleted ho es es' _ _ _ hc hd =>
    refine ⟨ho, fun session _ => ⟨fun hb => ?_, fun hg => ?_⟩⟩
    · cases isOk_of_unbound (.of_carried hd) hb
    · have hd' (request : DatabaseRequest) (outcome : Http.Outcome)
          (he : Event.database request outcome ∈
            Event.record (.forgotten c.anyName) :: (es ++ es')) :
          Event.database request outcome ∈ es' := by
        refine (List.mem_append.1 ((List.mem_cons.1 he).resolve_left nofun)).resolve_left ?_
        exact (within_of_connect hc).database_not_mem (by decide)
      cases isOk_of_gone (.of_carried hd) (hg.imp hd')

/-- The finalizer is removed just if there is a reason to. -/
theorem release_sent_iff (hl : Leaving c name index) (hr : (exchanges config c).Run tr r) :
    (∃ outcome, Event.kube (release name index) outcome ∈ tr) ↔
      c.spec.deletionPolicy = .orphan ∨ ∃ session, Connected config.apiUrl c tr session ∧
        (c.externalName = "" ∨ Gone session c.externalName tr) := by
  rcases (run_deleted_iff hl).1 hr with ⟨es, e, hc, rfl, rfl⟩ | ⟨es, action, outcome, hc, rfl, rfl⟩
  · obtain ⟨ho, hs⟩ := not_settled_of_failed hc
    constructor
    · rintro ⟨outcome, he⟩
      cases contentType_of_failed hc (kube_mem_countedRound.1 he)
    · rintro (horphan | ⟨session, hconnected, hgone⟩)
      · exact absurd horphan ho
      · obtain ⟨hb, hg⟩ := hs session (hconnected.imp fun _ _ => kube_mem_countedRound.1)
        rcases hgone with hgone | hgone
        · exact absurd hgone hb
        · exact absurd (hgone.imp fun _ _ => database_mem_countedRound.1) hg
  · refine iff_of_true ⟨outcome, ?_⟩ (settled_of_cleaning hc fun e he => by simp [he])
    exact kube_mem_countedRound.2 (List.mem_append_right _ List.mem_cons_self)

/-- **An orphaned database** is not asked about, and nothing is read to do so. -/
theorem orphan_quiet (hl : Leaving c name index) (ho : c.spec.deletionPolicy = .orphan)
    (hr : (exchanges config c).Run tr r) :
    (∀ request outcome, Event.database request outcome ∉ tr) ∧
      ∀ request outcome, Event.kube request outcome ∈ tr → request = release name index := by
  rcases (run_deleted_iff hl).1 hr with ⟨es, e, hc, rfl, rfl⟩ | ⟨es, action, outcome, hc, rfl, rfl⟩
  · exact absurd ho (not_settled_of_failed hc).1
  · cases hc with
    | deleted hn _ _ _ => exact absurd ho hn
    | orphaned _ =>
      constructor
      · intro request outcome he
        simp at he
      · intro request outcome' he
        have heq : request = release name index ∧ outcome' = outcome := by simpa using he
        exact heq.1

/-- A request that records a status is a merge patch, as no other is here. -/
theorem contentType_of_setStatus {status : Status}
    (h : (Kube.Call.setStatus name status).request = .ok request) :
    request.contentType = some "application/merge-patch+json" :=
  (Kube.Request.targets_of_write h).contentType

/-- **The last that a cleanup does** is to record the status, and it ends well with any answer to
that. -/
theorem cleaning_of_other_status {action : Action} (h : Cleaning apiUrl c es (.ok action))
    (ht : request.contentType = some "application/merge-patch+json")
    (he : Event.kube request outcome ∈ es) :
    ∃ before, es = before ++ [.kube request outcome] ∧ Event.kube request outcome ∉ before ∧
      ∀ outcome', Cleaning apiUrl c (before ++ [.kube request outcome']) (.ok action) := by
  cases h with
  | orphaned _ => cases List.mem_singleton.1 he
  | @deleted ho es es' es'' _ c' _ hc hd hs =>
    -- connecting only reads, and deleting asks nothing of the object store
    have hbefore : Event.kube request outcome ∉
        Event.record (.forgotten c.anyName) :: (es ++ es') := by
      intro hm
      rcases List.mem_append.1 ((List.mem_cons.1 hm).resolve_left nofun) with hm | hm
      · cases ht.symm.trans (contentType_of_connect hc hm)
      · exact kube_not_mem_delete hd hm
    have hstatus : Event.kube request outcome ∈ es'' := by
      rw [← List.append_assoc, ← List.cons_append, List.mem_append] at he
      exact he.resolve_left hbefore
    obtain ⟨rfl, hother⟩ := recording_of_other (accessed_recordStatus.1 hs) hstatus
    refine ⟨_, by rw [← List.append_assoc, ← List.cons_append], hbefore, fun outcome' => ?_⟩
    obtain ⟨recorded', hrecorded⟩ := hother outcome'
    have hcleaning := Cleaning.deleted ho hc hd (accessed_recordStatus.2 hrecorded)
    rwa [← List.append_assoc, ← List.cons_append] at hcleaning

/-- What surrounds the last exchange of a cleanup. -/
theorem countedRound_append (before : Trace) (e last : Event) (failed : Bool) :
    countedRound (before ++ [e] ++ [last]) failed =
      (Event.record .reconcileStarted :: before) ++
        e :: [last, .record (.reconcileEnded failed)] := by
  simp

/-- **What is said about the status does not matter**: with any other answer to the request that
records it, the reconcile goes on and ends as before. -/
theorem run_of_other_status (hl : Leaving c name index) {pre post : Trace}
    {outcome outcome' : Http.Outcome}
    (ht : request.contentType = some "application/merge-patch+json")
    (hr : (exchanges config c).Run (pre ++ .kube request outcome :: post) r) :
    (exchanges config c).Run (pre ++ .kube request outcome' :: post) r := by
  generalize hp : pre ++ Event.kube request outcome :: post = tr at hr
  have hmem : Event.kube request outcome ∈ tr := by
    rw [← hp]
    exact List.mem_append_right _ List.mem_cons_self
  have hne : request ≠ release name index := by
    rintro rfl
    exact absurd (Option.some.inj ht) (by decide)
  rcases (run_deleted_iff hl).1 hr with ⟨es, e, hc, rfl, rfl⟩ | ⟨es, action, o, hc, rfl, rfl⟩
  · cases ht.symm.trans (contentType_of_failed hc (kube_mem_countedRound.1 hmem))
  · have hin : Event.kube request outcome ∈ es := by
      refine (List.mem_append.1 (kube_mem_countedRound.1 hmem)).resolve_right fun hm => ?_
      cases List.mem_singleton.1 hm
      exact hne rfl
    obtain ⟨before, rfl, hbefore, hother⟩ := cleaning_of_other_status hc ht hin
    have hfirst : Event.kube request outcome ∉ Event.record .reconcileStarted :: before :=
      fun hm => hbefore ((List.mem_cons.1 hm).resolve_left nofun)
    have hlast : Event.kube request outcome ∉ [.kube (release name index) o,
        Event.record (.reconcileEnded (!(removal name index action o).isOk))] := by
      intro hm
      have heq : request = release name index ∧ outcome = o := by simpa using hm
      exact hne heq.1
    rw [countedRound_append] at hp
    obtain ⟨rfl, -, rfl⟩ := (List.append_cons_inj_of_notMem hfirst hlast).1 hp.symm
    rw [← countedRound_append]
    exact (run_deleted_iff hl).2 (Or.inr ⟨_, action, o, hother outcome', rfl, rfl⟩)

/-- **A deleted cluster is released exactly when it is safe**: its database is to stay, or it was
never bound to one, or the database is gone. Nothing is asked for the sake of a database that is
to stay, and what is said about the status does not matter. -/
theorem released_iff_settled (hl : Leaving c name index) (hr : (exchanges config c).Run tr r) :
    ((∃ outcome, Event.kube (release name index) outcome ∈ tr) ↔
      c.spec.deletionPolicy = .orphan ∨ ∃ session, Connected config.apiUrl c tr session ∧
        (c.externalName = "" ∨ Gone session c.externalName tr)) ∧
    (c.spec.deletionPolicy = .orphan →
      (∀ request outcome, Event.database request outcome ∉ tr) ∧
        ∀ request outcome, Event.kube request outcome ∈ tr → request = release name index) ∧
    ∀ status request outcome outcome' pre post,
      (Kube.Call.setStatus name status).request = .ok request →
        tr = pre ++ .kube request outcome :: post →
          (exchanges config c).Run (pre ++ .kube request outcome' :: post) r := by
  refine ⟨release_sent_iff hl hr, fun ho => orphan_quiet hl ho hr, ?_⟩
  rintro status request outcome outcome' pre post hs rfl
  exact run_of_other_status hl (contentType_of_setStatus hs) hr

/-- A reconcile that succeeds has sent the request. -/
theorem release_sent_of_isOk (hl : Leaving c name index) (hr : (exchanges config c).Run tr r)
    (hok : r.isOk = true) : ∃ outcome, Event.kube (release name index) outcome ∈ tr := by
  rcases (run_deleted_iff hl).1 hr with ⟨es, e, hc, rfl, rfl⟩ | ⟨es, action, outcome, hc, rfl, rfl⟩
  · cases hok
  · exact ⟨outcome, kube_mem_countedRound.2 (List.mem_append_right _ List.mem_cons_self)⟩

namespace Sample

/-- A cluster that is being deleted. -/
def leaving : Cluster :=
  { cluster "a" with metadata := { (cluster "a").metadata with deletionTimestamp := some now } }

theorem leaving_db : Leaving leaving "db" 0 where
  named := rfl
  addressable :=
    ⟨by decide, List.all_eq_true.1 (by decide), List.all_eq_true.1 (by decide), by decide⟩
  deleted := rfl
  guarded := by decide

theorem isOk_givesA_leaving : (play givesA leaving).2.isOk = true := by
  decide +kernel

end Sample

open Sample in
/-- A cluster whose database is not there any more is released. -/
theorem released_iff_settled_missing : ∃ session,
    Connected Sample.config.apiUrl leaving (play givesA leaving).1 session ∧
      Gone session "a" (play givesA leaving).1 := by
  have hrun := run_play givesA leaving
  have hsent := release_sent_of_isOk leaving_db hrun isOk_givesA_leaving
  rcases (released_iff_settled leaving_db hrun).1.1 hsent with ho | ⟨session, hc, hn | hg⟩
  · exact absurd ho (by decide)
  · exact absurd hn (by decide)
  · exact ⟨session, hc, hg⟩

end ClusterKeeper.Exchange
