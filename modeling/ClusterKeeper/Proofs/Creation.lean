import ClusterKeeper.Proofs.Binding

/-!
# One database at a time

A reconcile asks for a database only where no identifier is stored, or where the stored one is of
a database that is gone.

* `reconcile_keeps_or_creates`: one reconcile leaves the identifier, or creates one database and
  records no identifier but its.
* `creations_le_succ_losses`: over any history, the databases created are at most one more than
  the times that one was found gone.
-/

namespace ClusterKeeper.Exchange

open Reconcile

variable {apiUrl name id x : String} {session : Session} {c : Cluster} {es es' tr : Trace}
  {e : Event}

theorem neutral_clock (now : Instant) : Neutral name (.clock now) := ⟨rfl, rfl, fun _ => rfl⟩

theorem neutral_record (event : Metrics.Event) : Neutral name (.record event) :=
  ⟨rfl, rfl, fun _ => rfl⟩

/-- What an exchange creates is what the call makes of its outcome. -/
theorem created?_of_post {request : DatabaseRequest} {outcome : Http.Outcome}
    {asked : CreateRequest} (h : request.method = .post) :
    created? (.database request outcome) =
      (DatabaseCall.interpret request.url outcome (.create asked)).toOption.join := by
  unfold created? DatabaseCall.interpret
  cases outcome with
  | noResponse => rfl
  | response r =>
    by_cases hs : Http.isSuccess r.status = true
    · simp [h, hs, DatabaseCall.arrived, DatabaseCall.checked, bind, Except.bind]
    · simp [h, hs, DatabaseCall.arrived, DatabaseCall.checked, bind, Except.bind, Except.toOption]

/-- A database is missing only if the answer says so. -/
theorem vanished_of_get_database {i : String} {f : CallFailure}
    (h : Called session (.get i) es (.error f)) (hf : f.isNotFound = true) :
    ∃ e ∈ es, vanished e = true := by
  generalize ha : (Except.error f : Except CallFailure (DatabaseCall.get i).Answer) = a at h
  cases h with
  | refused hr =>
    cases ha
    rw [isNotFound_of_request_error hr] at hf
    cases hf
  | sent hr outcome =>
    obtain ⟨r, rfl, hs⟩ := status_of_isNotFound ha.symm hf
    refine ⟨_, List.mem_singleton_self _, ?_⟩
    simp [vanished, method_of_request hr, methodOf, hs]

/-! ## The parts of a reconcile -/

theorem neutral_of_get_database {i : String} {request : DatabaseRequest}
    (hr : session.request (.get i) = .ok request) (outcome : Http.Outcome) :
    Neutral name (.database request outcome) := by
  have hfetch : Within [.fetch] [Event.database request outcome] :=
    within_of_fetched (.sent hr outcome)
  exact hfetch.neutral (by decide) _ (List.mem_singleton_self _)

/-- **Observing** keeps the identifier, also in the cluster that it may store. -/
theorem keeps_of_observe {p : Except Error Sighting × Cluster}
    (h : Carried (Lifecycle.observe session c) es p) : ∀ e ∈ es, Keeps name c.externalName e := by
  intro e he
  cases made_of_observe h e he with
  | clock now => exact (neutral_clock now).keeps
  | record _ => exact (neutral_record _).keeps
  | pause millis => exact ⟨rfl, rfl⟩
  | kube hk hr outcome =>
    obtain ⟨db, rfl⟩ := hk
    exact keeps_of_replaceCluster (c := c.lateInitialize db) hr outcome
  | database hd hr outcome =>
    subst hd
    exact (neutral_of_get_database hr outcome).keeps

/-- **What is not found is gone**, if it was looked for at all. -/
theorem vanished_of_observe {c' : Cluster}
    (h : Carried (Lifecycle.observe session c) es (.ok {}, c')) :
    c.externalName = "" ∨ ∃ e ∈ es, vanished e = true := by
  have ho := Lifecycle.Observing.of_carried h
  generalize hp : ((.ok {}, c') : Except Error Sighting × Cluster) = p at ho
  cases ho with
  | unbound hn => exact Or.inl hn
  | missing _ hc hf =>
    obtain ⟨e, he, hv⟩ := vanished_of_get_database hc hf
    exact Or.inr ⟨e, List.mem_append_left _ he, hv⟩
  | failed _ _ _ => cases hp
  | found _ _ ha => cases ha <;> cases hp

/-- **Naming** a cluster records its identifier. -/
theorem binds_of_naming {r : Except Error Cluster} (h : Naming c es r) :
    ∀ e ∈ es, Binds name c.externalName e := by
  intro e he
  cases made_of_naming h e he with
  | clock now => exact (neutral_clock now).binds
  | record hr => exact hr.elim
  | pause millis => exact Neutral.binds ⟨rfl, rfl, fun _ => rfl⟩
  | kube hk hr outcome =>
    subst hk
    exact binds_of_setExternalName hr outcome
  | database hd _ _ => exact hd.elim

theorem Binds.keeps (h : Binds name id e) : Keeps name id e :=
  ⟨h.created, (h.renamed id).trans (ite_self id)⟩

/-- In the exchanges a database is created: `P` holds of those before, and those after record no
identifier but its. -/
def Creates (name : String) (P : Event → Prop) (db : Database) (es : Trace) : Prop :=
  ∃ pre e post, es = pre ++ e :: post ∧ (∀ g ∈ pre, P g) ∧ created? e = some db ∧
    ∀ g ∈ post, Binds name db.id g

variable {P Q : Event → Prop} {db : Database}

theorem Creates.append_right (h : Creates name P db es) (hb : ∀ e ∈ es', Binds name db.id e) :
    Creates name P db (es ++ es') := by
  obtain ⟨pre, e, post, rfl, hpre, he, hpost⟩ := h
  refine ⟨pre, e, post ++ es', ?_, hpre, he, List.forall_mem_append.2 ⟨hpost, hb⟩⟩
  rw [List.append_assoc, List.cons_append]

theorem Creates.append_left (h : Creates name P db es) (hp : ∀ e ∈ es', P e) :
    Creates name P db (es' ++ es) := by
  obtain ⟨pre, e, post, rfl, hpre, he, hpost⟩ := h
  exact ⟨es' ++ pre, e, post, (List.append_assoc _ _ _).symm,
    List.forall_mem_append.2 ⟨hp, hpre⟩, he, hpost⟩

theorem Creates.imp (h : Creates name P db es) (hpq : ∀ e, P e → Q e) : Creates name Q db es := by
  obtain ⟨pre, e, post, rfl, hpre, he, hpost⟩ := h
  exact ⟨pre, e, post, rfl, fun g hg => hpq g (hpre g hg), he, hpost⟩

/-- No other database is created in the exchanges. -/
theorem Creates.eq_of_mem {db' : Database} (h : Creates name P db es)
    (hp : ∀ e, P e → created? e = none) (he : e ∈ es) (hc : created? e = some db') : db' = db := by
  obtain ⟨pre, e', post, rfl, hpre, he', hpost⟩ := h
  rcases List.mem_append.1 he with hm | hm
  · cases (hp e (hpre e hm)).symm.trans hc
  rcases List.mem_cons.1 hm with rfl | hm
  · exact Option.some.inj (hc.symm.trans he')
  · cases (hpost e hm).created.symm.trans hc

/-- A call to create a database makes one exchange that does, or none. -/
theorem created_of_called (name : String) {asked : CreateRequest}
    {a : Except CallFailure (DatabaseCall.create asked).Answer}
    (h : Called session (.create asked) es a) :
    (∃ db e, a = .ok (some db) ∧ es = [e] ∧ created? e = some db) ∨
      (∀ db, a ≠ .ok (some db)) ∧ ∀ e ∈ es, Neutral name e := by
  cases h with
  | refused hr => exact Or.inr ⟨fun _ => nofun, List.forall_mem_nil _⟩
  | @sent request hr outcome =>
    have hc : created? (.database request outcome) =
        (DatabaseCall.interpret request.url outcome (.create asked)).toOption.join :=
      created?_of_post (method_of_request hr)
    cases ha : DatabaseCall.interpret request.url outcome (.create asked) with
    | error f =>
      rw [ha] at hc
      exact Or.inr ⟨fun _ => nofun, List.forall_mem_singleton.2 ⟨hc, rfl, fun _ => rfl⟩⟩
    | ok database? =>
      rw [ha] at hc
      cases database? with
      | none => exact Or.inr ⟨fun _ => nofun, List.forall_mem_singleton.2 ⟨hc, rfl, fun _ => rfl⟩⟩
      | some db => exact Or.inl ⟨db, _, rfl, rfl, hc⟩

theorem externalName_setExternalName (c : Cluster) (x : String) :
    (c.setExternalName x).externalName = x := by
  unfold Cluster.externalName Cluster.setExternalName
  simp

/-- **Creating** leaves the identifier, unless a database is created: then it is that of the
database. -/
theorem creates_of_create {r : Except Error ConnectionDetails} {c' : Cluster}
    (h : Carried (Lifecycle.create session c) es (r, c')) :
    (c'.externalName = c.externalName ∧ ∀ e ∈ es, Neutral name e) ∨
      ∃ db, c'.externalName = db.id ∧ Creates name (Neutral name) db es := by
  have hnew {db : Database} {now : Instant} {es es' : Trace}
      (hc : Called session (Lifecycle.ask c) es (.ok (some db))) (hs : ∀ e ∈ es', Neutral name e) :
      Creates name (Neutral name) db (.clock now :: es ++ es') := by
    rcases created_of_called name hc with ⟨_, e, ha, rfl, he⟩ | ⟨hne, _⟩
    · cases ha
      exact ⟨[.clock now], e, es', rfl, List.forall_mem_singleton.2 (neutral_clock now), he,
        fun g hg => (hs g hg).binds⟩
    · exact absurd rfl (hne db)
  have hold {now : Instant} {es : Trace} {a : Except CallFailure (Option Database)}
      (hc : Called session (Lifecycle.ask c) es a) (ha : ∀ db, a ≠ .ok (some db)) :
      ∀ e ∈ Event.clock now :: es ++ [Lifecycle.counted "create" false], Neutral name e := by
    rcases created_of_called name hc with ⟨db, _, h, _, _⟩ | ⟨_, hn⟩
    · exact absurd h (ha db)
    · refine List.forall_mem_append.2 ⟨List.forall_mem_cons.2 ⟨neutral_clock now, hn⟩, ?_⟩
      exact List.forall_mem_singleton.2 (neutral_record _)
  have hcreate := Lifecycle.Creating.of_carried h
  generalize hp : (r, c') = p at hcreate
  cases hcreate with
  | unnamed _ now =>
    cases hp
    exact Or.inl ⟨rfl, List.forall_mem_singleton.2 (neutral_clock now)⟩
  | failed _ now hc => cases hp; exact Or.inl ⟨rfl, hold hc fun _ => nofun⟩
  | empty _ now hc => cases hp; exact Or.inl ⟨rfl, hold hc fun _ => nofun⟩
  | @bound _ _ now _ db hc =>
    cases hp
    refine Or.inr ⟨db, externalName_setExternalName _ _, hnew hc ?_⟩
    exact List.forall_mem_singleton.2 (neutral_record _)
  | @detailed _ _ now _ _ db _ hc hd =>
    cases hp
    refine Or.inr ⟨db, externalName_setExternalName _ _, hnew hc ?_⟩
    refine List.forall_mem_cons.2 ⟨neutral_record _, ?_⟩
    cases hd with
    | own _ => exact List.forall_mem_nil _
    | fetched _ hg => exact (within_of_fetched hg).neutral (by decide)
    | unfetched _ hg => exact (within_of_fetched hg).neutral (by decide)

/-- **Introducing** leaves the identifier, or creates a database and records its identifier. -/
theorem keeps_or_creates_of_introducing {r : Except Error Action} (h : Introducing session c es r) :
    (∀ e ∈ es, Keeps name c.externalName e) ∨ ∃ db, Creates name (Neutral name) db es := by
  -- what follows the creation records no identifier but that of the cluster as it then is
  have hafter {es es' : Trace} {creation : Except Error ConnectionDetails} {c' : Cluster}
      (h : Carried (Lifecycle.create session c) es (creation, c'))
      (hb : ∀ e ∈ es', Binds name c'.externalName e) :
      (∀ e ∈ es ++ es', Keeps name c.externalName e) ∨
        ∃ db, Creates name (Neutral name) db (es ++ es') := by
    rcases creates_of_create h with ⟨hn, hc⟩ | ⟨db, hn, hc⟩
    · rw [hn] at hb
      exact Or.inl (List.forall_mem_append.2
        ⟨fun e he => (hc e he).keeps, fun e he => (hb e he).keeps⟩)
    · rw [hn] at hb
      exact Or.inr ⟨db, hc.append_right hb⟩
  cases h with
  | unnamed hc _ hn => exact hafter hc (binds_of_naming hn)
  | named hc hn hp =>
    refine hafter hc (List.forall_mem_append.2
      ⟨?_, fun e he => ((within_of_presenting hp).neutral (by decide) e he).binds⟩)
    cases hn with
    | unbound _ => exact List.forall_mem_nil _
    | recorded _ hn => exact binds_of_naming hn

/-- **Applying** leaves the identifier, or creates a database where there was none. -/
theorem keeps_or_creates_of_applying {interval : Nat} {r : Except Error Action}
    (h : Applying apiUrl interval c es r) :
    (∀ e ∈ es, Keeps name c.externalName e) ∨
      (c.externalName = "" ∨ ∃ e ∈ es, vanished e = true) ∧
        ∃ db, Creates name (Keeps name c.externalName) db es := by
  have hread {es : Trace} {r : Except Error Session}
      (hc : Carried (Lifecycle.connect apiUrl c) es r) : ∀ e ∈ es, Keeps name c.externalName e :=
    fun e he => ((within_of_connect hc).neutral (by decide) e he).keeps
  cases h with
  | unconnected hc => exact Or.inl (hread hc)
  | unobserved hc ho => exact Or.inl (List.forall_mem_append.2 ⟨hread hc, keeps_of_observe ho⟩)
  | @absent es₁ es₂ es₃ _ _ hc ho hi =>
    have hk : ∀ e ∈ es₂, Keeps name c.externalName e := keeps_of_observe ho
    rcases keeps_or_creates_of_introducing hi with hi | ⟨db, hi⟩
    · exact Or.inl (List.forall_mem_append.2 ⟨hread hc, List.forall_mem_append.2 ⟨hk, hi⟩⟩)
    · refine Or.inr ⟨(vanished_of_observe ho).imp_right ?_, db, ?_⟩
      · rintro ⟨e, he, hg⟩
        exact ⟨e, List.mem_append_right _ (List.mem_append_left _ he), hg⟩
      · exact ((hi.imp fun e he => he.keeps).append_left hk).append_left (hread hc)
  | @present _ _ es₃ _ _ _ hc ho hm =>
    have hmaintained : ∀ e ∈ es₃, Neutral name e := (within_of_maintaining hm).neutral (by decide)
    exact Or.inl (List.forall_mem_append.2 ⟨hread hc, List.forall_mem_append.2
      ⟨keeps_of_observe ho, fun e he => (hmaintained e he).keeps⟩⟩)

/-- **One reconcile** leaves the identifier, or creates a database where there was none. -/
theorem reconcile_keeps_or_creates (name : String) {config : Config} {r : Except Error Action}
    (h : (exchanges config c).Run tr r) :
    (∀ e ∈ tr, Keeps name c.externalName e) ∨
      (c.externalName = "" ∨ ∃ e ∈ tr, vanished e = true) ∧
        ∃ db, Creates name (Keeps name c.externalName) db tr := by
  obtain ⟨es, hg, rfl⟩ := run_exchanges_iff.1 h
  have hwrap {es : Trace} {first last : Metrics.Event}
      (h : ∀ e ∈ es, Keeps name c.externalName e) :
      ∀ e ∈ Event.record first :: es ++ [Event.record last], Keeps name c.externalName e :=
    List.forall_mem_append.2 ⟨List.forall_mem_cons.2 ⟨(neutral_record _).keeps, h⟩,
      List.forall_mem_singleton.2 (neutral_record _).keeps⟩
  have hkeep {kinds : List Kind} {es : Trace} (hw : Within kinds es)
      (hk : .store ∉ kinds ∧ .name ∉ kinds ∧ .create ∉ kinds) :
      ∀ e ∈ es, Keeps name c.externalName e := fun e he => (hw.neutral hk e he).keeps
  cases hg with
  | applied _ _ ha =>
    rcases keeps_or_creates_of_applying ha with hk | ⟨hv, db, hk⟩
    · exact Or.inl (hwrap hk)
    · refine Or.inr ⟨hv.imp_right ?_, db, ?_⟩
      · rintro ⟨e, he, hg⟩
        exact ⟨e, List.mem_append_left _ (List.mem_cons_of_mem _ he), hg⟩
      · have hl : Creates name (Keeps name c.externalName) db ([Event.record _] ++ es) :=
          hk.append_left (List.forall_mem_singleton.2 (neutral_record .reconcileStarted).keeps)
        exact hl.append_right (List.forall_mem_singleton.2 (neutral_record _).binds)
  | uncleaned _ _ _ hc => exact Or.inl (hwrap (hkeep (within_of_cleaning hc) (by decide)))
  | released _ _ _ hc ha =>
    have hwithin := (within_of_cleaning hc).append (within_of_edited ha)
    exact Or.inl (hwrap (hkeep hwithin (by decide)))
  | marked _ _ _ ha => exact Or.inl (hwrap (hkeep (within_of_edited ha) (by decide)))
  | nameless _ _ => exact Or.inl (hwrap (List.forall_mem_nil _))
  | ignored _ _ => exact Or.inl (hwrap (List.forall_mem_nil _))

end ClusterKeeper.Exchange
