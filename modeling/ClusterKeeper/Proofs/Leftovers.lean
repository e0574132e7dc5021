import ClusterKeeper.Proofs.Naming

/-!
# What is left behind

Deleting a cluster deletes the database that it is bound to, and relies on there being no other.
So it is for every database whose identifier was recorded: it stays bound until it is missed. A
database whose identifier never was recorded is left behind.

* `Recorded`, `Missing`: a database was recorded, and one was missed.
* `stored_of_run`, `recorded_of_run`: what one reconcile makes of the identifier.
* `Tracked`, `tracked_of_history`: the invariant of histories.
* `settled_of_release`: when the finalizer is removed, every recorded database is dealt with.
* `left_behind`: one that is not recorded is not.
-/

namespace ClusterKeeper.Exchange

open Reconcile Lifecycle

/-- **A database is recorded**: it is created, and a request that sets the identifier of the
cluster with the name is accepted after that. -/
def Recorded (name : String) (db : Database) (tr : Trace) : Prop :=
  ∃ pre e post, tr = pre ++ e :: post ∧ created? e = some db ∧ post.any (naming name) = true

/-- **A database is missing**: it was asked for, and the answer is that there is none. -/
def Missing (session : Session) (id : String) (tr : Trace) : Prop :=
  ∃ request r, session.request (.get id) = .ok request ∧
    Event.database request (.response r) ∈ tr ∧ r.status = 404

/-- **A database is dealt with** at the remote API: it was deleted, or it is missing. -/
def Settled (apiUrl id : String) (tr : Trace) : Prop :=
  ∃ session : Session, session.base = apiUrl ∧ (Gone session id tr ∨ Missing session id tr)

/-- **What is kept of the databases recorded so far**: there is an identifier if there are any, and
each has it or is missing. -/
structure Tracked (apiUrl name : String) (trs : List Trace) : Prop where
  bound : ∀ tr ∈ trs, ∀ db, Recorded name db tr → storedName name "" trs.flatten ≠ ""
  kept : ∀ tr ∈ trs, ∀ db, Recorded name db tr → db.id = storedName name "" trs.flatten ∨
    ∃ session : Session, session.base = apiUrl ∧ Missing session db.id trs.flatten

variable {config : Config} {apiUrl name id : String} {index : Nat} {session : Session} {c : Cluster}
  {db : Database} {es tr pre post : Trace} {trs : List Trace} {r : Except Error Action}
  {request : Kube.Request} {outcome : Http.Outcome}

theorem Missing.mono (h : Missing session id es) (hsub : ∀ e ∈ es, e ∈ tr) :
    Missing session id tr := by
  obtain ⟨request, r, hr, he, hs⟩ := h
  exact ⟨request, r, hr, hsub _ he, hs⟩

theorem Missed.missing (h : Missed session id pre) : Missing session id pre := by
  obtain ⟨before, request, r, after, hr, hs, rfl, _⟩ := h
  exact ⟨request, r, hr, by simp, hs⟩

/-- A session is opened at the address that is configured. -/
theorem base_of_connected (h : Connected apiUrl c tr session) : session.base = apiUrl := by
  obtain ⟨_, _, _, token, _, _, _, _, hs⟩ := h
  unfold Session.start at hs
  split at hs
  · cases hs
    rfl
  · cases hs

/-- **A database that is recorded** has an identifier, and that is the one that is stored. -/
theorem recorded_of_run (hr : (exchanges config c).Run tr r) (h : Recorded name db tr) :
    db.id ≠ "" ∧ storedName name c.externalName tr = db.id := by
  obtain ⟨pre, e, post, htr, hc, hpost⟩ := h
  have he : e ∈ tr := htr ▸ List.mem_append_right _ List.mem_cons_self
  obtain ⟨g, hg, hnaming⟩ := List.any_eq_true.1 hpost
  have hg : g ∈ tr := htr ▸ List.mem_append_right _ (List.mem_cons_of_mem _ hg)
  obtain ⟨before, es, after, rfl, hnamed⟩ := named_of_run hr he hc
  have hset := annotates_of_naming hnaming
  refine ⟨hnamed.ne_empty hg hset, ?_⟩
  rw [hnamed.storedName_eq name, if_pos]
  exact List.any_eq_true.2 ⟨g, hnamed.mem_of_annotates hg hset, hnaming⟩

/-- **One reconcile** leaves the identifier that is stored, or sets it to another that is not empty,
where there was none or the old one is of a database that is missing. -/
theorem stored_of_run (hr : (exchanges config c).Run tr r) (name : String) :
    storedName name c.externalName tr = c.externalName ∨
      storedName name c.externalName tr ≠ "" ∧ (c.externalName = "" ∨
        ∃ session : Session, session.base = config.apiUrl ∧ Missing session c.externalName tr) := by
  by_cases hcreates : ∃ e ∈ tr, ∃ db, created? e = some db
  · obtain ⟨e, he, db, hc⟩ := hcreates
    obtain ⟨pre, hsub, hmay⟩ := mayCreate_of_created hr he hc
    have hvacant : c.externalName = "" ∨
        ∃ session : Session, session.base = config.apiUrl ∧ Missing session c.externalName tr := by
      rcases hmay.vacant with ⟨hempty, _⟩ | ⟨_, session, hconnected, hmissed⟩
      · exact Or.inl hempty
      · exact Or.inr ⟨session, base_of_connected hconnected, hmissed.missing.mono hsub⟩
    obtain ⟨before, es, after, rfl, hnamed⟩ := named_of_run hr he hc
    rw [hnamed.storedName_eq name]
    cases hany : es.any (naming name) with
    | false => exact Or.inl rfl
    | true =>
      refine Or.inr ⟨fun hempty => ?_, hvacant⟩
      rw [hnamed.unnamed hempty] at hany
      cases hany
  · refine Or.inl (storedName_of_keeps ?_)
    rcases reconcile_keeps_or_creates name hr with hk | ⟨_, db, pre, e, post, rfl, _, hc, _⟩
    · exact hk
    · exact absurd ⟨e, List.mem_append_right _ List.mem_cons_self, db, hc⟩ hcreates

/-- **Step.** A reconcile of the cluster as it is stored keeps track of what is recorded. -/
theorem Tracked.append (h : Tracked config.apiUrl name trs)
    (hc : c.externalName = storedName name "" trs.flatten) (hr : (exchanges config c).Run tr r) :
    Tracked config.apiUrl name (trs ++ [tr]) := by
  have hstored : storedName name "" (trs ++ [tr]).flatten = storedName name c.externalName tr := by
    rw [List.flatten_append, List.flatten_singleton, storedName_append, hc]
  have hold : ∀ e ∈ trs.flatten, e ∈ (trs ++ [tr]).flatten := by
    intro e he
    rw [List.flatten_append]
    exact List.mem_append_left _ he
  have hnew : ∀ e ∈ tr, e ∈ (trs ++ [tr]).flatten := by
    intro e he
    rw [List.flatten_append, List.flatten_singleton]
    exact List.mem_append_right _ he
  constructor
  · intro tr' htr' db hrec
    rw [hstored]
    rcases List.mem_append.1 htr' with htr' | htr'
    · have hne : c.externalName ≠ "" := hc ▸ h.bound tr' htr' db hrec
      rcases stored_of_run hr name with hs | ⟨hs, _⟩
      · rwa [hs]
      · exact hs
    · cases List.mem_singleton.1 htr'
      obtain ⟨hne, hs⟩ := recorded_of_run hr hrec
      rwa [hs]
  · intro tr' htr' db hrec
    rw [hstored]
    rcases List.mem_append.1 htr' with htr' | htr'
    · rcases h.kept tr' htr' db hrec with hid | ⟨session, hbase, hmissing⟩
      · rw [← hc] at hid
        have hne : c.externalName ≠ "" := hc ▸ h.bound tr' htr' db hrec
        rcases stored_of_run hr name with hs | ⟨_, hempty | ⟨session, hbase, hmissing⟩⟩
        · exact Or.inl (hid.trans hs.symm)
        · exact absurd hempty hne
        · exact Or.inr ⟨session, hbase, (hid ▸ hmissing).mono hnew⟩
      · exact Or.inr ⟨session, hbase, hmissing.mono hold⟩
    · cases List.mem_singleton.1 htr'
      exact Or.inl (recorded_of_run hr hrec).2.symm

/-- **Invariant of histories.** What is recorded is kept track of. -/
theorem tracked_of_history (h : History config name trs) : Tracked config.apiUrl name trs := by
  induction h with
  | start => exact ⟨nofun, nofun⟩
  | reconcile _ _ hc hr ih => exact ih.append hc hr

/-! ## The removal of the finalizer -/

/-- No edit both adds a finalizer and removes one. -/
theorem addition_ne_remove : (Finalizer.addition c).toJson ≠
    (Kube.FinalizerEdit.remove index Finalizer.name).toJson := by
  unfold Finalizer.addition
  split <;> simp [Kube.FinalizerEdit.toJson, Kube.FinalizerEdit.operation, Json.fields]

/-- **The finalizer is removed after a cleanup** of a deleted cluster that ended well. -/
theorem cleaning_of_release
    (hrequest : (Kube.Call.editFinalizers name (.remove index Finalizer.name)).request =
      .ok request)
    (hr : (exchanges config c).Run (pre ++ .kube request outcome :: post) r) :
    Finalizer.isDeleted c = true ∧
      ∃ es action, Cleaning config.apiUrl c es (.ok action) ∧ ∀ e ∈ es, e ∈ pre := by
  have htype := Kube.Call.contentType_of_request hrequest
  have hnot {kinds : List Kind} {es : Trace} (hw : Within kinds es) (hk : .edit ∉ kinds) :
      Event.kube request outcome ∉ es := fun he => hw.contentType_ne hk he htype
  generalize htr : pre ++ Event.kube request outcome :: post = tr at hr
  obtain ⟨es, hg, rfl⟩ := run_exchanges_iff.1 hr
  have hmem : Event.kube request outcome ∈ es := by
    have hin : Event.kube request outcome ∈ pre ++ .kube request outcome :: post :=
      List.mem_append_right _ List.mem_cons_self
    rw [htr] at hin
    exact kube_mem_countedRound.1 hin
  cases hg with
  | applied _ _ ha => exact absurd hmem (hnot (within_of_applying ha) (by decide))
  | uncleaned _ _ _ hc => exact absurd hmem (hnot (within_of_cleaning hc) (by decide))
  | nameless _ _ => cases hmem
  | ignored _ _ => cases hmem
  | marked _ _ _ ha =>
    rcases asked_iff.1 ha with ⟨f, _, rfl, _⟩ | ⟨request', outcome', hr', rfl, _⟩
    · cases hmem
    · cases List.mem_singleton.1 hmem
      have hbody := (Kube.Request.targets_of_write hr').body.symm.trans
        (Kube.Request.targets_of_write hrequest).body
      exact absurd (Option.some.inj hbody) addition_ne_remove
  | @released _ _ hd _ _ es es' action _ hc ha =>
    have hclean : Event.kube request outcome ∉ es :=
      hnot (within_of_cleaning hc) (by decide)
    have hin : Event.kube request outcome ∈ es' := (List.mem_append.1 hmem).resolve_left hclean
    rcases asked_iff.1 ha with ⟨f, _, rfl, _⟩ | ⟨request', outcome', hr', rfl, _⟩
    · cases hin
    · cases List.mem_singleton.1 hin
      have hfirst : Event.kube request outcome ∉ Event.record .reconcileStarted :: es := by
        simpa using hclean
      rw [← List.cons_append, List.append_assoc, List.singleton_append] at htr
      obtain ⟨rfl, _⟩ := (List.append_cons_inj_of_notMem hfirst (by simp)).1 htr.symm
      exact ⟨hd, es, action, hc, fun e he => List.mem_cons_of_mem _ he⟩

/-- **Nothing that was recorded is left behind.** When the finalizer of a cluster whose database is
to be deleted is removed, every database that was recorded in its history was deleted or is missing.
If no identifier is stored, then none was recorded. -/
theorem settled_of_release (h : History config name trs)
    (hc : c.externalName = storedName name "" trs.flatten)
    (hr : (exchanges config c).Run (pre ++ .kube request outcome :: post) r)
    (hp : c.spec.deletionPolicy = .delete)
    (hrequest : (Kube.Call.editFinalizers name (.remove index Finalizer.name)).request =
      .ok request) :
    ∀ tr ∈ trs ++ [pre ++ .kube request outcome :: post], ∀ db, Recorded name db tr →
      c.externalName ≠ "" ∧ Settled config.apiUrl db.id (trs.flatten ++ pre) := by
  obtain ⟨hd, es, action, hcleaning, hsub⟩ := cleaning_of_release hrequest hr
  intro tr htr db hrec
  have hin : tr ∈ trs := by
    refine (List.mem_append.1 htr).resolve_right fun hlast => ?_
    cases List.mem_singleton.1 hlast
    obtain ⟨_, e, _, hsplit, hcreated, _⟩ := hrec
    have he : e ∈ pre ++ Event.kube request outcome :: post :=
      hsplit ▸ List.mem_append_right _ List.mem_cons_self
    obtain ⟨_, _, hmay⟩ := mayCreate_of_created hr he hcreated
    cases hd.symm.trans hmay.live
  have htracked := tracked_of_history h
  have hne : c.externalName ≠ "" := hc ▸ htracked.bound tr hin db hrec
  refine ⟨hne, ?_⟩
  rcases htracked.kept tr hin db hrec with hid | ⟨session, hbase, hmissing⟩
  · rw [← hc] at hid
    rcases settled_of_cleaning hcleaning hsub with ho | ⟨session, hconnected, hempty | hgone⟩
    · cases ho.symm.trans hp
    · exact absurd hempty hne
    · refine ⟨session, base_of_connected hconnected, Or.inl ?_⟩
      rw [hid]
      exact hgone.imp fun _ _ he => List.mem_append_right _ he
  · exact ⟨session, hbase, Or.inr (hmissing.mono fun e he => List.mem_append_left _ he)⟩

namespace Sample

/-- What is created is ready and has the identifier `a`, but the object store fails at whatever is
written. -/
def losesA : (q : Question) → Answer q
  | .kube request =>
    if request.method = .patch then .response ⟨500, [], true⟩ else response 200 (stored request)
  | q => answer (database "a" (some connection)) none q

/-- A cluster that is being deleted and is bound to no database. -/
def unbound : Cluster :=
  { cluster "" with metadata := { (cluster "").metadata with deletionTimestamp := some now } }

theorem leaving_unbound : Leaving unbound "db" 0 where
  named := rfl
  addressable := leaving_db.addressable
  deleted := rfl
  guarded := by decide

theorem created_losesA : storedName "db" "" (play losesA (cluster "")).1 = "" ∧
    (∃ e ∈ (play losesA (cluster "")).1, (created? e).any (·.id == "a") = true) ∧
    ∀ e ∈ (play losesA (cluster "")).1, asks .get e = false ∧ asks .delete e = false := by
  decide +kernel

theorem isOk_unbound : (play givesA unbound).2.isOk = true ∧
    ∀ e ∈ (play givesA unbound).1, asks .get e = false ∧ asks .delete e = false := by
  decide +kernel

end Sample

open Sample in
/-- The database that a cluster was bound to is dealt with when the cluster is released. -/
theorem settled_of_release_bound : ∃ pre outcome post,
    (play givesA leaving).1 = pre ++ .kube (release "db" 0) outcome :: post ∧
      Settled Sample.config.apiUrl "a" ((play givesA (cluster "")).1 ++ pre) := by
  obtain ⟨hstored, hnames, _⟩ := storedName_givesA
  obtain ⟨_, ⟨e, he, hc⟩, _⟩ := named_givesA
  obtain ⟨db, hdb, hid⟩ := (Option.any_eq_true _ _).1 hc
  have hid : db.id = "a" := eq_of_beq hid
  have hrecorded : Recorded "db" db (play givesA (cluster "")).1 := by
    obtain ⟨pre, post, hsplit⟩ := List.append_of_mem he
    rw [hsplit] at hnames
    exact ⟨pre, e, post, hsplit, hdb, any_naming_of_namesCreated hnames hdb⟩
  have hfirst : History Sample.config "db" ([] ++ [(play givesA (cluster "")).1]) :=
    .reconcile .start rfl rfl (run_play givesA (cluster ""))
  have hbound : leaving.externalName =
      storedName "db" "" (([] : List Trace) ++ [(play givesA (cluster "")).1]).flatten := by
    rw [List.nil_append, List.flatten_singleton, hstored]
    rfl
  have hrun := run_play givesA leaving
  obtain ⟨outcome, hsent⟩ := release_sent_of_isOk leaving_db hrun isOk_givesA_leaving
  obtain ⟨pre, post, hsplit⟩ := List.append_of_mem hsent
  rw [hsplit] at hrun
  have hsettled := settled_of_release hfirst hbound hrun rfl
    (Kube.request_editFinalizers leaving_db.addressable (.remove 0 Finalizer.name))
  have hlast := (hsettled _ (by simp) db hrecorded).2
  rw [hid, List.nil_append, List.flatten_singleton] at hlast
  exact ⟨pre, outcome, post, hsplit, hlast⟩

open Sample in
/-- **A database that is not recorded is left behind**: it is created, but its identifier is lost,
and when the cluster is deleted its finalizer is removed, without a request to fetch or to delete
any database. -/
theorem left_behind : ∃ c tr tr' r outcome e db, c.spec.deletionPolicy = .delete ∧
    History Sample.config "db" [tr, tr'] ∧ (exchanges Sample.config c).Run tr' r ∧
      Event.kube (release "db" 0) outcome ∈ tr' ∧ e ∈ tr ∧ created? e = some db ∧ db.id = "a" ∧
        ∀ g ∈ tr ++ tr', asks .get g = false ∧ asks .delete g = false := by
  obtain ⟨hstored, ⟨e, he, hc⟩, hquiet⟩ := created_losesA
  obtain ⟨hok, hquiet'⟩ := isOk_unbound
  obtain ⟨db, hdb, hid⟩ := (Option.any_eq_true _ _).1 hc
  have hfirst : History Sample.config "db" ([] ++ [(play losesA (cluster "")).1]) :=
    .reconcile .start rfl rfl (run_play losesA (cluster ""))
  have hempty : unbound.externalName =
      storedName "db" "" (([] : List Trace) ++ [(play losesA (cluster "")).1]).flatten := by
    rw [List.nil_append, List.flatten_singleton, hstored]
    rfl
  have hrun := run_play givesA unbound
  obtain ⟨outcome, hsent⟩ := release_sent_of_isOk leaving_unbound hrun hok
  have h : History Sample.config "db"
      ([] ++ [(play losesA (cluster "")).1] ++ [(play givesA unbound).1]) :=
    .reconcile hfirst rfl hempty hrun
  exact ⟨unbound, _, _, _, outcome, e, db, rfl, h, hrun, hsent, he, hdb, eq_of_beq hid,
    List.forall_mem_append.2 ⟨hquiet, hquiet'⟩⟩

end ClusterKeeper.Exchange
