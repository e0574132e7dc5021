import ClusterKeeper.Proofs.Release

/-!
# When databases are created and deleted

The requests that create a database and that delete one are all that change anything at the remote
API. A reconcile sends at most one of them, and only where the cluster calls for it.

* `Changing`: exchanges with at most one such request.
* `MayCreate`, `MayDelete`: what goes before it, and what the cluster is like.
* `changes_in_phase`: no reconcile sends another.
-/

namespace ClusterKeeper.Exchange

open Reconcile Lifecycle

/-- Whether a request with the method goes to the remote API. -/
def asks (method : Http.Method) : Event → Bool
  | ⟨.database request, _⟩ => request.method = method
  | _ => false

/-- Whether a database is to be created or deleted. -/
def changes (e : Event) : Bool := asks .post e || asks .delete e

/-- Whether anything is sent at all. -/
def sends : Event → Bool
  | ⟨.database _, _⟩ | ⟨.kube _, _⟩ => true
  | _ => false

/-- **A database was just missed**: it was looked for last, and the answer is that there is none. -/
def Missed (session : Session) (id : String) (pre : Trace) : Prop :=
  ∃ before request r after, session.request (.get id) = .ok request ∧ r.status = 404 ∧
    pre = before ++ .database request (.response r) :: after ∧ ∀ e ∈ after, sends e = false

/-- There is no database for the cluster, as far as is known: it is bound to none and none was
looked for, or the one that it is bound to was just missed. -/
def Vacant (apiUrl : String) (c : Cluster) (pre : Trace) : Prop :=
  c.externalName = "" ∧ (∀ e ∈ pre, asks .get e = false) ∨
    c.externalName ≠ "" ∧ ∃ session, Connected apiUrl c pre session ∧
      Missed session c.externalName pre

/-- **A database may be created** after `pre`, for a live cluster that carries the finalizer. -/
structure MayCreate (apiUrl : String) (c : Cluster) (pre : Trace) : Prop where
  live : Finalizer.isDeleted c = false
  guarded : (Finalizer.index? c).isSome = true
  vacant : Vacant apiUrl c pre

/-- **A database may be deleted** by a request after `pre`, if it is the one that a cluster which is
being deleted and carries the finalizer is bound to. -/
structure MayDelete (apiUrl : String) (c : Cluster) (pre : Trace) (request : DatabaseRequest) :
    Prop where
  leaving : Finalizer.isDeleted c = true
  guarded : (Finalizer.index? c).isSome = true
  policy : c.spec.deletionPolicy = .delete
  bound : c.externalName ≠ ""
  named : ∃ session, Connected apiUrl c pre session ∧
    session.request (.delete c.externalName) = .ok request

/-- **At most one change**: no request creates or deletes a database but one, which creates it if
`C` holds of what goes before, or deletes it if `D` does. -/
inductive Changing (C : Trace → Prop) (D : Trace → DatabaseRequest → Prop) : Trace → Prop
  | none {es : Trace} (h : ∀ e ∈ es, changes e = false) : Changing C D es
  | creation {pre post : Trace} {request : DatabaseRequest} {outcome : Http.Outcome}
      (hm : request.method = .post) (hc : C pre) (hpre : ∀ e ∈ pre, changes e = false)
      (hpost : ∀ e ∈ post, changes e = false) :
      Changing C D (pre ++ .database request outcome :: post)
  | deletion {pre post : Trace} {request : DatabaseRequest} {outcome : Http.Outcome}
      (hm : request.method = .delete) (hd : D pre request) (hpre : ∀ e ∈ pre, changes e = false)
      (hpost : ∀ e ∈ post, changes e = false) :
      Changing C D (pre ++ .database request outcome :: post)

variable {C C' : Trace → Prop} {D D' : Trace → DatabaseRequest → Prop} {apiUrl id : String}
  {config : Config} {session : Session} {c c' : Cluster} {es es' pre post tr : Trace} {e : Event}
  {r : Except Error Action}

theorem Changing.append_left (h : Changing C D es) (hq : ∀ e ∈ es', changes e = false)
    (hc : ∀ pre, C pre → C' (es' ++ pre))
    (hd : ∀ pre request, D pre request → D' (es' ++ pre) request) :
    Changing C' D' (es' ++ es) := by
  cases h with
  | none h => exact .none (List.forall_mem_append.2 ⟨hq, h⟩)
  | creation hm h hpre hpost =>
    rw [← List.append_assoc]
    exact .creation hm (hc _ h) (List.forall_mem_append.2 ⟨hq, hpre⟩) hpost
  | deletion hm h hpre hpost =>
    rw [← List.append_assoc]
    exact .deletion hm (hd _ _ h) (List.forall_mem_append.2 ⟨hq, hpre⟩) hpost

theorem Changing.append_right (h : Changing C D es) (hq : ∀ e ∈ es', changes e = false) :
    Changing C D (es ++ es') := by
  cases h with
  | none h => exact .none (List.forall_mem_append.2 ⟨h, hq⟩)
  | creation hm h hpre hpost =>
    rw [List.append_assoc, List.cons_append]
    exact .creation hm h hpre (List.forall_mem_append.2 ⟨hpost, hq⟩)
  | deletion hm h hpre hpost =>
    rw [List.append_assoc, List.cons_append]
    exact .deletion hm h hpre (List.forall_mem_append.2 ⟨hpost, hq⟩)

/-- Nothing is asked with a method where there is nothing of its kind. -/
theorem Within.asks_false {kinds : List Kind} {kind : Kind} {method : Http.Method}
    (h : Within kinds es) (hm : Kind.ofMethod? method = some kind) (hk : kind ∉ kinds) :
    ∀ e ∈ es, asks method e = false := by
  intro e he
  cases h e he with
  | clock now => rfl
  | pause millis => rfl
  | record _ => rfl
  | kube _ _ outcome => rfl
  | database _ _ outcome => exact decide_eq_false fun hmethod => hk (h.kind_mem he hmethod hm)

/-- **Exchanges that neither create nor delete** a database change nothing. -/
theorem Within.changes_false {kinds : List Kind} (h : Within kinds es)
    (hk : .create ∉ kinds ∧ .delete ∉ kinds) : ∀ e ∈ es, changes e = false := by
  intro e he
  rw [changes, h.asks_false rfl hk.1 e he, h.asks_false rfl hk.2 e he]
  rfl

theorem asks_of_sends (h : sends e = false) (method : Http.Method) : asks method e = false := by
  obtain ⟨q, answer⟩ := e
  cases q with
  | database request => cases h
  | kube request => cases h
  | clock => rfl
  | record event => rfl
  | pause millis => rfl

theorem Missed.append_left (h : Missed session id es) (pre : Trace) :
    Missed session id (pre ++ es) := by
  obtain ⟨before, request, r, after, hr, hs, rfl, ha⟩ := h
  exact ⟨pre ++ before, request, r, after, hr, hs, (List.append_assoc _ _ _).symm, ha⟩

theorem Missed.append_right (h : Missed session id es) (hq : ∀ e ∈ es', sends e = false) :
    Missed session id (es ++ es') := by
  obtain ⟨before, request, r, after, hr, hs, rfl, ha⟩ := h
  refine ⟨before, request, r, after ++ es', hr, hs, ?_, List.forall_mem_append.2 ⟨ha, hq⟩⟩
  rw [List.append_assoc, List.cons_append]

/-- What shows in some exchanges shows in more of them. -/
theorem Connected.mono (h : Connected apiUrl c es session) (hsub : ∀ e ∈ es, e ∈ tr) :
    Connected apiUrl c tr session :=
  h.imp fun _ _ he => hsub _ he

theorem Vacant.cons (h : Vacant apiUrl c es) (he : ∀ method, asks method e = false) :
    Vacant apiUrl c (e :: es) := by
  rcases h with ⟨hn, hg⟩ | ⟨hn, session, hc, hm⟩
  · exact Or.inl ⟨hn, List.forall_mem_cons.2 ⟨he .get, hg⟩⟩
  · exact Or.inr ⟨hn, session, hc.mono fun _ => List.mem_cons_of_mem _, hm.append_left [e]⟩

/-! ## The parts of a reconcile -/

/-- **Observing** finds no database where none was looked for, or where the one was just missed. -/
theorem vacant_of_observe {es : Trace} {c' : Cluster}
    (hc : Carried (connect apiUrl c) es (.ok session))
    (ho : Carried (observe session c) es' (.ok {}, c')) : Vacant apiUrl c (es ++ es') := by
  have hconnected : Connected apiUrl c (es ++ es') session :=
    connected_of_connecting (.of_carried hc) fun e he => List.mem_append_left _ he
  have hobserve := Observing.of_carried ho
  generalize hp : ((.ok {}, c') : Except Error Sighting × Cluster) = p at hobserve
  cases hobserve with
  | unbound hn =>
    rw [List.append_nil]
    exact Or.inl ⟨hn, (within_of_connect hc).asks_false rfl (by decide)⟩
  | @missing hn es f hg hf =>
    refine Or.inr ⟨hn, session, hconnected, Missed.append_left ?_ _⟩
    rcases called_iff.1 hg with ⟨f', hr, _, ha⟩ | ⟨request, outcome, hr, rfl, ha⟩
    · cases ha
      rw [isNotFound_of_request_error hr] at hf
      cases hf
    · obtain ⟨r, rfl, hs⟩ := status_of_isNotFound ha.symm hf
      exact ⟨[], request, r, [counted "get" true], hr, hs, rfl, List.forall_mem_singleton.2 rfl⟩
  | failed _ _ _ => cases hp
  | found _ _ ha => cases ha <;> cases hp

/-- What a call to create a database, and what follows it, changes. -/
theorem changing_of_asked {now : Instant} {success : Bool} {asked : CreateRequest}
    {a : Except CallFailure (DatabaseCall.create asked).Answer}
    (h : Called session (.create asked) es a) (hq : ∀ e ∈ es', changes e = false) :
    Changing (fun pre => ∀ e ∈ pre, sends e = false) (fun _ _ => False)
      (.clock now :: es ++ counted "create" success :: es') := by
  have hafter : ∀ e ∈ counted "create" success :: es', changes e = false :=
    List.forall_mem_cons.2 ⟨rfl, hq⟩
  cases h with
  | refused hr => exact .none (List.forall_mem_cons.2 ⟨rfl, hafter⟩)
  | @sent request hr outcome =>
    have hcreation : Changing (fun pre => ∀ e ∈ pre, sends e = false) (fun _ _ => False)
        ([.clock now] ++ .database request outcome :: counted "create" success :: es') :=
      .creation (method_of_request hr) (List.forall_mem_singleton.2 rfl)
        (List.forall_mem_singleton.2 rfl) hafter
    exact hcreation

/-- **Creating** sends nothing before it asks for a database. -/
theorem changing_of_create {p : Except Error ConnectionDetails × Cluster}
    (h : Carried (create session c) es p) :
    Changing (fun pre => ∀ e ∈ pre, sends e = false) (fun _ _ => False) es := by
  cases Creating.of_carried h with
  | unnamed _ now => exact .none (List.forall_mem_singleton.2 rfl)
  | failed _ now hc => exact changing_of_asked hc (List.forall_mem_nil _)
  | empty _ now hc => exact changing_of_asked hc (List.forall_mem_nil _)
  | bound _ _ now hc => exact changing_of_asked hc (List.forall_mem_nil _)
  | detailed _ _ now hc hd =>
    refine changing_of_asked hc ?_
    cases hd with
    | own _ => exact List.forall_mem_nil _
    | fetched _ hg => exact (within_of_fetched hg).changes_false (by decide)
    | unfetched _ hg => exact (within_of_fetched hg).changes_false (by decide)

/-- **Introducing** a cluster changes nothing after the creation. -/
theorem changing_of_introducing (h : Introducing session c es r) :
    Changing (fun pre => ∀ e ∈ pre, sends e = false) (fun _ _ => False) es := by
  cases h with
  | unnamed hc _ hn =>
    exact (changing_of_create hc).append_right ((within_of_naming hn).changes_false (by decide))
  | named hc hn hp =>
    refine (changing_of_create hc).append_right ?_
    exact ((within_of_named hn).append (within_of_presenting hp)).changes_false (by decide)

/-- **Applying** creates a database only where there is none, and deletes none. -/
theorem changing_of_applying {interval : Nat} (h : Applying apiUrl interval c es r) :
    Changing (Vacant apiUrl c) (fun _ _ => False) es := by
  cases h with
  | unconnected hc => exact .none ((within_of_connect hc).changes_false (by decide))
  | unobserved hc ho =>
    exact .none (((within_of_connect hc).append (within_of_observe ho)).changes_false (by decide))
  | @absent es₁ es₂ es₃ _ _ hc ho hi =>
    rw [← List.append_assoc]
    refine (changing_of_introducing hi).append_left
      (((within_of_connect hc).append (within_of_observe ho)).changes_false (by decide)) ?_
      fun _ _ => id
    intro pre hpre
    have hno : ∀ e ∈ pre, asks .get e = false := fun e he => asks_of_sends (hpre e he) .get
    rcases vacant_of_observe hc ho with ⟨hn, hg⟩ | ⟨hn, session', hc', hm⟩
    · exact Or.inl ⟨hn, List.forall_mem_append.2 ⟨hg, hno⟩⟩
    · exact Or.inr ⟨hn, session', hc'.mono fun _ => List.mem_append_left _, hm.append_right hpre⟩
  | present hc ho hm =>
    exact .none (((within_of_connect hc).append
      ((within_of_observe ho).append (within_of_maintaining hm))).changes_false (by decide))

/-- **Deleting** asks to delete the database that the cluster is bound to. -/
theorem changing_of_delete {p : Except Error Unit × Cluster} (h : Carried (delete session c) es p) :
    Changing (fun _ => False) (fun _ request => c.externalName ≠ "" ∧
      session.request (.delete c.externalName) = .ok request) es := by
  have hcalled {now : Instant} {es : Trace} {a : Except CallFailure Unit} {success : Bool}
      (hn : c.externalName ≠ "") (hc : Called session (.delete c.externalName) es a) :
      Changing (fun _ => False) (fun _ request => c.externalName ≠ "" ∧
        session.request (.delete c.externalName) = .ok request)
        (.clock now :: es ++ [counted "delete" success]) := by
    rcases called_iff.1 hc with ⟨f, _, rfl, _⟩ | ⟨request, outcome, hr, rfl, _⟩
    · exact .none (List.forall_mem_cons.2 ⟨rfl, List.forall_mem_singleton.2 rfl⟩)
    · have hdeletion : Changing (fun _ => False) (fun _ request => c.externalName ≠ "" ∧
          session.request (.delete c.externalName) = .ok request)
          ([.clock now] ++ .database request outcome :: [counted "delete" success]) :=
        .deletion (method_of_request hr) ⟨hn, hr⟩ (List.forall_mem_singleton.2 rfl)
          (List.forall_mem_singleton.2 rfl)
      exact hdeletion
  cases Deleting.of_carried h with
  | unbound _ now => exact .none (List.forall_mem_singleton.2 rfl)
  | deleted hn now hc => exact hcalled hn hc
  | missing hn now hc _ => exact hcalled hn hc
  | failed hn now hc _ => exact hcalled hn hc

/-- **Cleaning** deletes the database that the cluster is bound to, unless it is to stay, and
creates none. -/
theorem changing_of_cleaning (h : Cleaning apiUrl c es r) :
    Changing (fun _ => False) (fun pre request => c.spec.deletionPolicy = .delete ∧
      c.externalName ≠ "" ∧ ∃ session, Connected apiUrl c pre session ∧
        session.request (.delete c.externalName) = .ok request) es := by
  have hpolicy (h : c.spec.deletionPolicy ≠ .orphan) : c.spec.deletionPolicy = .delete := by
    cases hp : c.spec.deletionPolicy with
    | delete => rfl
    | orphan => exact absurd hp h
  have hforgotten {es : Trace} {r : Except Error Session} (hc : Carried (connect apiUrl c) es r) :
      ∀ e ∈ Event.record (.forgotten c.anyName) :: es, changes e = false :=
    List.forall_mem_cons.2 ⟨rfl, (within_of_connect hc).changes_false (by decide)⟩
  have hdelete {es es' : Trace} {session : Session} {p : Except Error Unit × Cluster}
      (ho : c.spec.deletionPolicy ≠ .orphan) (hc : Carried (connect apiUrl c) es (.ok session))
      (hd : Carried (delete session c) es' p) :
      Changing (fun _ => False) (fun pre request => c.spec.deletionPolicy = .delete ∧
        c.externalName ≠ "" ∧ ∃ session, Connected apiUrl c pre session ∧
          session.request (.delete c.externalName) = .ok request)
        (.record (.forgotten c.anyName) :: es ++ es') := by
    refine (changing_of_delete hd).append_left (hforgotten hc) (fun _ => False.elim) ?_
    rintro pre request ⟨hn, hr⟩
    have hconnected : Connected apiUrl c (.record (.forgotten c.anyName) :: es ++ pre) session :=
      connected_of_connecting (.of_carried hc) fun e he =>
        List.mem_append_left _ (List.mem_cons_of_mem _ he)
    exact ⟨hpolicy ho, hn, session, hconnected, hr⟩
  cases h with
  | orphaned _ => exact .none (List.forall_mem_singleton.2 rfl)
  | unconnected _ hc => exact .none (hforgotten hc)
  | undeleted ho hc hd => exact hdelete ho hc hd
  | deleted ho hc hd hs =>
    rw [← List.append_assoc, ← List.cons_append]
    exact (hdelete ho hc hd).append_right ((within_of_recordStatus hs).changes_false (by decide))

/-- **One reconcile** changes at most one thing, and only where it may. -/
theorem changing_of_run (h : (exchanges config c).Run tr r) :
    Changing (MayCreate config.apiUrl c) (MayDelete config.apiUrl c) tr := by
  obtain ⟨es, hg, rfl⟩ := run_exchanges_iff.1 h
  have hguarded : Changing (MayCreate config.apiUrl c) (MayDelete config.apiUrl c)
      (.record .reconcileStarted :: es) := by
    have hfirst : ∀ e ∈ [Event.record .reconcileStarted], changes e = false :=
      List.forall_mem_singleton.2 rfl
    cases hg with
    | applied hi hd ha =>
      refine (changing_of_applying ha).append_left hfirst ?_ fun _ _ => False.elim
      intro pre hv
      exact ⟨hd, Option.isSome_iff_exists.2 ⟨_, hi⟩, hv.cons fun _ => rfl⟩
    | uncleaned hi hd _ hc =>
      refine (changing_of_cleaning hc).append_left hfirst (fun _ => False.elim) ?_
      rintro pre request ⟨hp, hn, session, hc, hr⟩
      exact ⟨hd, Option.isSome_iff_exists.2 ⟨_, hi⟩, hp, hn, session,
        hc.mono fun _ => List.mem_cons_of_mem _, hr⟩
    | released hi hd _ hc ha =>
      have hedited := (within_of_edited ha).changes_false (by decide)
      refine ((changing_of_cleaning hc).append_right hedited).append_left hfirst
        (fun _ => False.elim) ?_
      rintro pre request ⟨hp, hn, session, hc, hr⟩
      exact ⟨hd, Option.isSome_iff_exists.2 ⟨_, hi⟩, hp, hn, session,
        hc.mono fun _ => List.mem_cons_of_mem _, hr⟩
    | marked _ _ _ ha =>
      exact .none (List.forall_mem_cons.2 ⟨rfl, (within_of_edited ha).changes_false (by decide)⟩)
    | nameless _ _ => exact .none hfirst
    | ignored _ _ => exact .none hfirst
  exact hguarded.append_right (List.forall_mem_singleton.2 rfl)

/-! ## The whole of a reconcile -/

/-- Of exchanges with one change, that change is found in one way. -/
theorem eq_of_append_cons {e' : Event} {pre' post' : Trace} (hpre : ∀ g ∈ pre, changes g = false)
    (hpost : ∀ g ∈ post, changes g = false) (he : changes e' = true)
    (h : pre ++ e :: post = pre' ++ e' :: post') : pre = pre' ∧ e = e' := by
  have hnot {es : Trace} (hq : ∀ g ∈ es, changes g = false) : e' ∉ es := by
    intro hm
    rw [hq e' hm] at he
    cases he
  rcases List.append_eq_append_iff.1 h with ⟨as, rfl, has⟩ | ⟨bs, rfl, hbs⟩
  · cases as with
    | nil =>
      cases has
      exact ⟨(List.append_nil pre).symm, rfl⟩
    | cons a as =>
      cases has
      exact absurd (List.mem_append_right _ List.mem_cons_self) (hnot hpost)
  · cases bs with
    | nil =>
      cases hbs
      exact ⟨List.append_nil pre', rfl⟩
    | cons b bs =>
      cases hbs
      exact absurd (List.mem_append_right _ List.mem_cons_self) (hnot hpre)

theorem countP_asks_eq_zero {method : Http.Method} (hm : method = .post ∨ method = .delete)
    (h : ∀ e ∈ es, changes e = false) : es.countP (asks method) = 0 := by
  refine List.countP_eq_zero.2 fun e he => ?_
  have hq := h e he
  rw [changes, Bool.or_eq_false_iff] at hq
  rcases hm with rfl | rfl
  · simp [hq.1]
  · simp [hq.2]

/-- Exchanges with at most one change hold at most one request to create or to delete. -/
theorem Changing.countP_le_one (h : Changing C D tr) :
    tr.countP (asks .post) + tr.countP (asks .delete) ≤ 1 := by
  have hzero {es : Trace} (h : ∀ e ∈ es, changes e = false) :
      es.countP (asks .post) = 0 ∧ es.countP (asks .delete) = 0 :=
    ⟨countP_asks_eq_zero (Or.inl rfl) h, countP_asks_eq_zero (Or.inr rfl) h⟩
  cases h with
  | none h =>
    rw [(hzero h).1, (hzero h).2]
    exact Nat.zero_le 1
  | creation hm _ hpre hpost =>
    rw [List.countP_append, List.countP_append, List.countP_cons, List.countP_cons, (hzero hpre).1,
      (hzero hpre).2, (hzero hpost).1, (hzero hpost).2]
    simp [asks, hm]
  | deletion hm _ hpre hpost =>
    rw [List.countP_append, List.countP_append, List.countP_cons, List.countP_cons, (hzero hpre).1,
      (hzero hpre).2, (hzero hpost).1, (hzero hpost).2]
    simp [asks, hm]

/-- A request to create is the one change, and so goes where `C` holds of what was before. -/
theorem Changing.of_post (h : Changing C D (pre ++ e :: post)) (he : asks .post e = true) :
    C pre := by
  have hc : changes e = true := by rw [changes, he, Bool.true_or]
  generalize htr : pre ++ e :: post = tr at h
  cases h with
  | none h =>
    rw [h e (htr ▸ List.mem_append_right _ List.mem_cons_self)] at hc
    cases hc
  | creation hm hcre hpre hpost =>
    obtain ⟨rfl, _⟩ := eq_of_append_cons hpre hpost hc htr.symm
    exact hcre
  | deletion hm _ hpre hpost =>
    obtain ⟨_, rfl⟩ := eq_of_append_cons hpre hpost hc htr.symm
    simp [asks, hm] at he

/-- Likewise a request to delete, which is one that `D` holds of. -/
theorem Changing.of_delete {request : DatabaseRequest} {outcome : Http.Outcome}
    (h : Changing C D (pre ++ .database request outcome :: post)) (hm : request.method = .delete) :
    D pre request := by
  have hc : changes (.database request outcome) = true := by simp [changes, asks, hm]
  generalize htr : pre ++ Event.database request outcome :: post = tr at h
  cases h with
  | none h =>
    rw [h _ (htr ▸ List.mem_append_right _ List.mem_cons_self)] at hc
    cases hc
  | creation hm' _ hpre hpost =>
    obtain ⟨_, he⟩ := eq_of_append_cons hpre hpost hc htr.symm
    cases he
    cases hm'.symm.trans hm
  | deletion hm' hd hpre hpost =>
    obtain ⟨rfl, he⟩ := eq_of_append_cons hpre hpost hc htr.symm
    cases he
    exact hd

/-- **Changes in their phase.** A reconcile sends at most one request that creates or deletes a
database. It creates one only for a live cluster that carries the finalizer, and where there is no
database for it. It deletes one only for a cluster that is being deleted and carries the finalizer,
whose database is not to stay, and then the one that the cluster is bound to. -/
theorem changes_in_phase (h : (exchanges config c).Run tr r) :
    tr.countP (asks .post) + tr.countP (asks .delete) ≤ 1 ∧
    (∀ pre e post, tr = pre ++ e :: post → asks .post e = true → MayCreate config.apiUrl c pre) ∧
    ∀ pre request outcome post, tr = pre ++ .database request outcome :: post →
      request.method = .delete → MayDelete config.apiUrl c pre request := by
  have hchanging := changing_of_run h
  refine ⟨hchanging.countP_le_one, ?_, ?_⟩
  · rintro pre e post rfl he
    exact hchanging.of_post he
  · rintro pre request outcome post rfl hm
    exact hchanging.of_delete hm

namespace Sample

theorem countP_givesB : (play givesB (cluster "a")).1.countP (asks .post) = 1 := by
  decide +kernel

end Sample

open Sample in
/-- The database of a cluster is created anew where the one that it is bound to was just missed. -/
theorem changes_in_phase_anew : ∃ pre e post session,
    (play givesB (cluster "a")).1 = pre ++ e :: post ∧ asks .post e = true ∧
      Connected Sample.config.apiUrl (cluster "a") pre session ∧ Missed session "a" pre := by
  have hpos : 0 < (play givesB (cluster "a")).1.countP (asks .post) := by
    rw [countP_givesB]
    exact Nat.zero_lt_one
  obtain ⟨e, he, hask⟩ := List.countP_pos_iff.1 hpos
  obtain ⟨pre, post, htr⟩ := List.append_of_mem he
  have hcreate := (changes_in_phase (run_play givesB (cluster "a"))).2.1 pre e post htr hask
  rcases hcreate.vacant with ⟨hn, _⟩ | ⟨_, session, hc, hm⟩
  · exact absurd hn (by decide)
  · exact ⟨pre, e, post, session, htr, hask, hc, hm⟩

end ClusterKeeper.Exchange
