import ClusterKeeper.Proofs.Phases
import ClusterKeeper.Proofs.Publication

/-!
# Naming what was created

A reconcile that creates a database and succeeds has recorded its identifier with the cluster, and
the next one goes by it. All of it fails for one identifier, the empty one: it counts as none.

* `annotates`, `decided`: what sets an identifier, and what tells whether it took effect.
* `answered_of_naming`: naming succeeds only if the store gives the cluster back.
* `NamedFrom`, `named_of_run`: a reconcile that creates, cut around the naming.
* `recorded_iff_ne_empty`: when the identifier is recorded, and what the next reconcile does then.
-/

namespace ClusterKeeper.Exchange

open Reconcile Lifecycle

/-- Whether an identifier is to be set in an exchange. -/
def annotates : Event → Bool
  | ⟨.kube request, _⟩ =>
    request.contentType = some "application/merge-patch+json" &&
      (request.body.bind annotated?).isSome
  | _ => false

/-- Whether a response of the object store tells if the request took effect. -/
def decided : Event → Bool
  | ⟨.kube _, .response r⟩ => Http.isSuccess r.status || Http.isFailure r.status
  | _ => true

variable {config : Config}
  {name id apiUrl : String} {session : Session} {c c' : Cluster} {db : Database}
  {es es' tr before after : Trace} {e : Event} {action : Action} {r : Except Error Action}

/-- Only recording an identifier sets one. -/
theorem Within.annotates_false {kinds : List Kind} (h : Within kinds es) (hk : .name ∉ kinds) :
    ∀ e ∈ es, annotates e = false := by
  intro e he
  cases h e he with
  | clock now => rfl
  | pause millis => rfl
  | record _ => rfl
  | database _ _ outcome => rfl
  | @kube call hc request hr outcome =>
    rw [annotates, Kube.Call.contentType_of_request hr]
    cases call with
    | setExternalName _ _ => exact absurd hc hk
    | setStatus _ status =>
      have hbody : request.body.bind annotated? = none := by
        rw [(Kube.Request.targets_of_write hr).body]
        rfl
      rw [hbody]
      rfl
    | _ => rfl

theorem annotates_of_setExternalName {request : Kube.Request}
    (h : (Kube.Call.setExternalName name id).request = .ok request) (outcome : Http.Outcome) :
    annotates (.kube request outcome) = true := by
  rw [annotates, Kube.Call.contentType_of_request h, (Kube.Request.targets_of_write h).body]
  rfl

theorem annotates_of_naming (h : naming name e = true) : annotates e = true := by
  obtain ⟨q, outcome⟩ := e
  cases q with
  | kube request =>
    rw [naming, Bool.and_assoc, Bool.and_eq_true] at h
    exact h.2
  | _ => cases h

/-- The store gives nothing back where it reports an error. -/
theorem not_isFailure_of_interpret {call : Kube.Call} {r : Http.Response} {a : call.Answer}
    (h : call.interpret (.response r) = .ok a) : Http.isFailure r.status = false := by
  by_contra hs
  rw [Bool.not_eq_false] at hs
  cases hr : Kube.received r with
  | error f =>
    rw [Kube.Call.interpret, hr] at h
    cases h
  | ok text =>
    simp only [Kube.Call.interpret, hr, hs, if_true, bind, Except.bind] at h
    split at h <;> cases h

/-- **An identifier that the store confirms** is recorded, if the responses tell. -/
theorem naming_of_answered {kept : Cluster} (h : Answered (.setExternalName name id) tr kept)
    (hname : ∀ ch ∈ name.toList, Kube.goesOn ch = true) (hd : ∀ e ∈ tr, decided e = true) :
    ∃ e ∈ tr, naming name e = true := by
  obtain ⟨request, outcome, hr, he, hi⟩ := h
  have hacc : accepted outcome = true := by
    have htold := hd _ he
    cases outcome with
    | noResponse => cases hi
    | response r =>
      rw [decided, not_isFailure_of_interpret hi, Bool.or_false] at htold
      exact htold
  refine ⟨_, he, ?_⟩
  have ht := Kube.Request.targets_of_write hr
  have hbody : (some (Kube.Call.externalNameBody id)).bind annotated? = some id := rfl
  rw [naming_kube, hacc, ht.method, ht.contentType, ht.body, hbody,
    Kube.path_of_setExternalName hr hname]
  simp [clusterPath]

/-! ## Where the identifier is recorded -/

/-- Trying again succeeds with a try that does. -/
theorem Retrying.exists_ok {α : Type} {op : Trace → Except Error α → Prop} {millis n : Nat} {a : α}
    (h : Retrying op millis n es (.ok a)) : ∃ es', op es' (.ok a) ∧ ∀ e ∈ es', e ∈ es := by
  generalize hr : (.ok a : Except Error α) = r at h
  induction h with
  | succeeded h => exact ⟨_, hr ▸ h, fun _ => id⟩
  | failed _ _ => cases hr
  | again _ _ ih =>
    obtain ⟨es', hop, hsub⟩ := ih hr
    exact ⟨es', hop, fun e he => List.mem_append_right _ (List.mem_cons_of_mem _ (hsub e he))⟩

/-- **Naming succeeds** only if the store gives the cluster back. -/
theorem answered_of_naming {kept : Cluster} (h : Naming c es (.ok kept)) :
    Answered (.setExternalName c.anyName c.externalName) es kept := by
  obtain ⟨es', hop, hsub⟩ := Retrying.exists_ok h
  obtain ⟨a, ha, hok⟩ := accessed_call.1 hop
  cases a with
  | error f => cases hok
  | ok a =>
    cases hok
    exact .of_asked ha hsub

/-- **The identifier of a new database is recorded** in the exchanges `es`, unless it is empty, and
the store confirms it if all goes well. Before these the identifier is left as it is, and after
them nothing is said of it. -/
structure NamedFrom (c : Cluster) (db : Database) (r : Except Error Action)
    (before es after : Trace) : Prop where
  quiet : ∀ e ∈ before, annotates e = false ∧
    ∀ name, renamedBy name c.externalName e = c.externalName
  unnamed : db.id = "" → es = []
  binds : ∀ name, ∀ e ∈ es, Binds name db.id e
  confirmed : r.isOk = true → db.id ≠ "" →
    ∃ kept, Answered (.setExternalName c.anyName db.id) es kept
  done : ∀ e ∈ after, annotates e = false ∧ ∀ name, Neutral name e

/-- Creating keeps the name of the cluster. -/
theorem anyName_of_create {creation : Except Error ConnectionDetails}
    (h : Carried (create session c) es (creation, c')) : c'.anyName = c.anyName := by
  have hcreate := Creating.of_carried h
  generalize hp : (creation, c') = p at hcreate
  cases hcreate <;> cases hp <;> rfl

theorem NamedFrom.append_left (h : NamedFrom c db r before es after)
    (hq : ∀ e ∈ es', annotates e = false ∧
      ∀ name, renamedBy name c.externalName e = c.externalName) :
    NamedFrom c db r (es' ++ before) es after :=
  { h with quiet := List.forall_mem_append.2 ⟨hq, h.quiet⟩ }

theorem NamedFrom.append_right (h : NamedFrom c db r before es after)
    (hq : ∀ e ∈ es', annotates e = false ∧ ∀ name, Neutral name e) :
    NamedFrom c db r before es (after ++ es') :=
  { h with done := List.forall_mem_append.2 ⟨h.done, hq⟩ }

/-- A database that is created is created in no exchanges without a creation. -/
theorem not_mem_of_created (hc : created? e = some db) (hq : ∀ g ∈ es, created? g = none) :
    e ∉ es := by
  intro he
  cases (hq e he).symm.trans hc

/-- **A creation that goes through** binds the cluster to the database that is created in it. -/
theorem externalName_of_create {creation : Except Error ConnectionDetails}
    (h : Carried (create session c) es (creation, c')) (he : e ∈ es) (hc : created? e = some db) :
    c'.externalName = db.id := by
  have hcreate : (c'.externalName = c.externalName ∧ ∀ e ∈ es, Neutral "" e) ∨
      ∃ db, c'.externalName = db.id ∧ Creates "" (Neutral "") db es := creates_of_create h
  rcases hcreate with ⟨_, hneutral⟩ | ⟨db', hid, hcreates⟩
  · exact absurd he (not_mem_of_created hc fun g hg => (hneutral g hg).created)
  · rw [hid, hcreates.eq_of_mem (fun _ hg => hg.created) he hc]

/-- **Introducing** names the database that it creates. -/
theorem named_of_introducing (h : Introducing session c es r) (he : e ∈ es)
    (hc : created? e = some db) :
    ∃ before es' after, es = before ++ (es' ++ after) ∧ NamedFrom c db r before es' after := by
  have hquiet {es : Trace} {p : Except Error ConnectionDetails × Cluster}
      (h : Carried (create session c) es p) :
      ∀ g ∈ es, annotates g = false ∧ ∀ name, renamedBy name c.externalName g = c.externalName := by
    have hwithin := within_of_create h
    exact fun g hg => ⟨hwithin.annotates_false (by decide) g hg,
      fun _ => hwithin.renamedBy_eq (by decide) _ g hg⟩
  have hnaming {c' : Cluster} {es : Trace} {r : Except Error Cluster} (h : Naming c' es r) :
      e ∉ es := not_mem_of_created hc ((within_of_naming h).created_none (by decide))
  cases h with
  | @unnamed es₁ es₂ _ c' _ hcr hb hn =>
    have hdb : c'.externalName = db.id :=
      externalName_of_create hcr ((List.mem_append.1 he).resolve_right (hnaming hn)) hc
    refine ⟨es₁, es₂, [], by rw [List.append_nil], hquiet hcr, ?_, ?_, nofun, List.forall_mem_nil _⟩
    · intro hempty
      exact absurd (hdb.trans hempty) hb
    · intro name
      exact hdb ▸ binds_of_naming hn
  | @named es₁ es₂ es₃ _ c' _ hcr hn hp =>
    have hwithin := within_of_presenting hp
    have hpresenting : e ∉ es₃ := not_mem_of_created hc (hwithin.created_none (by decide))
    have hnamed : e ∉ es₂ := by
      cases hn with
      | unbound _ => exact List.not_mem_nil
      | recorded _ hn => exact hnaming hn
    have hdb : c'.externalName = db.id := by
      refine externalName_of_create hcr ((List.mem_append.1 he).resolve_right fun hm => ?_) hc
      exact (List.mem_append.1 hm).elim hnamed hpresenting
    refine ⟨es₁, es₂, es₃, rfl, hquiet hcr, ?_, ?_, ?_, ?_⟩
    · intro hempty
      cases hn with
      | unbound _ => rfl
      | recorded hb _ => exact absurd (hdb.trans hempty) hb
    · intro name
      cases hn with
      | unbound _ => exact List.forall_mem_nil _
      | recorded _ hn => exact hdb ▸ binds_of_naming hn
    · intro _ hne
      cases hn with
      | unbound hb => exact absurd (hdb.symm.trans hb) hne
      | recorded _ hn =>
        have hanswered := answered_of_naming hn
        rw [anyName_of_create hcr, hdb] at hanswered
        exact ⟨_, hanswered⟩
    · exact fun g hg => ⟨hwithin.annotates_false (by decide) g hg,
        fun _ => hwithin.neutral (by decide) g hg⟩

/-- **Applying** names the database that it creates. -/
theorem named_of_applying {interval : Nat} (h : Applying apiUrl interval c es r) (he : e ∈ es)
    (hc : created? e = some db) :
    ∃ before es' after, es = before ++ (es' ++ after) ∧ NamedFrom c db r before es' after := by
  have hconnect {es : Trace} {r : Except Error Session} (h : Carried (connect apiUrl c) es r) :
      e ∉ es := not_mem_of_created hc ((within_of_connect h).created_none (by decide))
  have hobserve {session : Session} {es : Trace} {p : Except Error Sighting × Cluster}
      (h : Carried (observe session c) es p) : e ∉ es :=
    not_mem_of_created hc ((within_of_observe h).created_none (by decide))
  cases h with
  | unconnected hcn => exact absurd he (hconnect hcn)
  | unobserved hcn ho =>
    exact absurd he fun hm => (List.mem_append.1 hm).elim (hconnect hcn) (hobserve ho)
  | present hcn ho hm =>
    have hmaintain := not_mem_of_created hc ((within_of_maintaining hm).created_none (by decide))
    rcases List.mem_append.1 he with he | he
    · exact absurd he (hconnect hcn)
    · exact absurd he fun hm => (List.mem_append.1 hm).elim (hobserve ho) hmaintain
  | @absent es₁ es₂ es₃ _ _ hcn ho hi =>
    have hin : e ∈ es₃ := ((List.mem_append.1
      ((List.mem_append.1 he).resolve_left (hconnect hcn))).resolve_left (hobserve ho))
    obtain ⟨before, es, after, rfl, hnamed⟩ := named_of_introducing hi hin hc
    refine ⟨es₁ ++ es₂ ++ before, es, after, by simp only [List.append_assoc],
      hnamed.append_left ?_⟩
    refine List.forall_mem_append.2 ⟨fun g hg => ?_, fun g hg => ?_⟩
    · exact ⟨(within_of_connect hcn).annotates_false (by decide) g hg,
        fun _ => (within_of_connect hcn).renamedBy_eq (by decide) _ g hg⟩
    · exact ⟨(within_of_observe ho).annotates_false (by decide) g hg,
        fun _ => (keeps_of_observe ho g hg).renamed⟩

/-- A database is created by a request to create one. -/
theorem asks_of_created (h : created? e = some db) : asks .post e = true := by
  obtain ⟨q, outcome⟩ := e
  cases q with
  | database request =>
    cases outcome with
    | noResponse => cases h
    | response r =>
      by_cases hm : request.method = .post
      · exact decide_eq_true hm
      · rw [created?, if_neg fun hp => hm hp.1] at h
        cases h
  | _ => cases h

/-- A database is created only where it may be. -/
theorem mayCreate_of_created (h : (exchanges config c).Run tr r) (he : e ∈ tr)
    (hc : created? e = some db) :
    ∃ pre, (∀ g ∈ pre, g ∈ tr) ∧ MayCreate config.apiUrl c pre := by
  obtain ⟨pre, post, rfl⟩ := List.append_of_mem he
  exact ⟨pre, fun _ => List.mem_append_left _, (changing_of_run h).of_post (asks_of_created hc)⟩

/-- **A reconcile that creates a database** names it. -/
theorem named_of_run (h : (exchanges config c).Run tr r) (he : e ∈ tr)
    (hc : created? e = some db) :
    ∃ before es after, tr = before ++ (es ++ after) ∧ NamedFrom c db r before es after := by
  obtain ⟨_, _, hmay⟩ := mayCreate_of_created h he hc
  obtain ⟨index, hi⟩ := Option.isSome_iff_exists.1 hmay.guarded
  obtain ⟨es, r', hr, rfl, ha⟩ := applying_of_run h hi hmay.live
  have hin : e ∈ es := by
    rcases List.mem_append.1 he with he | he
    · refine (List.mem_cons.1 he).resolve_left ?_
      rintro rfl
      cases hc
    · cases List.mem_singleton.1 he
      cases hc
  obtain ⟨before, es, after, rfl, hnamed⟩ := named_of_applying ha hin hc
  have hok : r.isOk = r'.isOk := by
    rw [hr]
    cases r' <;> rfl
  have hnamed' : NamedFrom c db r before es after :=
    { hnamed with confirmed := fun h => hnamed.confirmed (hok ▸ h) }
  refine ⟨[.record .reconcileStarted] ++ before, es, after ++ [.record (.reconcileEnded (!r.isOk))],
    by simp only [List.cons_append, List.nil_append, List.append_assoc],
    (hnamed'.append_left ?_).append_right ?_⟩
  · exact List.forall_mem_singleton.2 ⟨rfl, fun _ => rfl⟩
  · exact List.forall_mem_singleton.2 ⟨rfl, fun _ => neutral_record _⟩

/-- What sets an identifier is exchanged where the new database is named. -/
theorem NamedFrom.mem_of_annotates (h : NamedFrom c db r before es after)
    (he : e ∈ before ++ (es ++ after)) (ha : annotates e = true) : e ∈ es := by
  have hnot {es : Trace} (hq : ∀ g ∈ es, annotates g = false) : e ∉ es := by
    intro hm
    rw [hq e hm] at ha
    cases ha
  have hin := (List.mem_append.1 he).resolve_left (hnot fun g hg => (h.quiet g hg).1)
  exact (List.mem_append.1 hin).resolve_right (hnot fun g hg => (h.done g hg).1)

/-- **No identifier is set** where the new one is empty. -/
theorem NamedFrom.ne_empty (h : NamedFrom c db r before es after)
    (he : e ∈ before ++ (es ++ after)) (ha : annotates e = true) : db.id ≠ "" := by
  intro hempty
  have hin := h.mem_of_annotates he ha
  rw [h.unnamed hempty] at hin
  cases hin

/-- **Any other identifier is recorded** if all goes well and the responses of the store tell. -/
theorem NamedFrom.exists_naming (h : NamedFrom c db r before es after) (hok : r.isOk = true)
    (hne : db.id ≠ "") (hname : c.metadata.name = some name)
    (hgo : ∀ ch ∈ name.toList, Kube.goesOn ch = true) (hd : ∀ e ∈ es, decided e = true) :
    ∃ e ∈ es, naming name e = true := by
  obtain ⟨kept, hanswered⟩ := h.confirmed hok hne
  have hany : c.anyName = name := by simp [Cluster.anyName, Metadata.anyName, hname]
  rw [hany] at hanswered
  exact naming_of_answered hanswered hgo hd

/-- **The store goes by the new identifier** once it is recorded. -/
theorem NamedFrom.storedName_eq (h : NamedFrom c db r before es after) (name : String) :
    storedName name c.externalName (before ++ (es ++ after)) =
      if es.any (naming name) then db.id else c.externalName := by
  rw [storedName_append, storedName_of_renamedBy fun g hg => (h.quiet g hg).2 name,
    storedName_append, storedName_of_binds (h.binds name),
    storedName_of_renamedBy fun g hg => ((h.done g hg).2 name).renamed _]

/-! ## The reconcile after it -/

/-- **A reconcile goes by an identifier**: it creates no database unless the one with the
identifier was just missed, and if it succeeds, it has asked for that one. -/
structure GoesBy (apiUrl : String) (c : Cluster) (id : String) (tr : Trace)
    (r : Except Error Action) : Prop where
  missed : ∀ pre e post, tr = pre ++ e :: post → asks .post e = true →
    ∃ session, Connected apiUrl c pre session ∧ Missed session id pre
  asked : r.isOk = true → (Finalizer.index? c).isSome = true → Finalizer.isDeleted c = false →
    ∃ session request outcome, Connected apiUrl c tr session ∧
      session.request (.get id) = .ok request ∧ Event.database request outcome ∈ tr

/-- Observing with success has asked for the database that the cluster is bound to. -/
theorem asked_of_observe {s : Sighting} (h : Carried (observe session c) es (.ok s, c'))
    (hb : c.externalName ≠ "") :
    ∃ request outcome, session.request (.get c.externalName) = .ok request ∧
      Event.database request outcome ∈ es := by
  have hobserve := Observing.of_carried h
  generalize hp : ((.ok s, c') : Except Error Sighting × Cluster) = p at hobserve
  cases hobserve with
  | unbound hn => exact absurd hn hb
  | failed _ _ _ => cases hp
  | missing _ hg hf =>
    rcases called_iff.1 hg with ⟨f', hr, _, ha⟩ | ⟨request, outcome, hr, rfl, _⟩
    · cases ha
      rw [isNotFound_of_request_error hr] at hf
      cases hf
    · exact ⟨request, outcome, hr, by simp⟩
  | found _ hg _ =>
    rcases called_iff.1 hg with ⟨f', _, _, ha⟩ | ⟨request, outcome, hr, rfl, _⟩
    · cases ha
    · exact ⟨request, outcome, hr, by simp⟩

/-- **A cluster with an identifier** is reconciled by it. -/
theorem goesBy_of_run (h : (exchanges config c).Run tr r) (hn : c.externalName = id)
    (hne : id ≠ "") : GoesBy config.apiUrl c id tr r := by
  subst hn
  constructor
  · rintro pre e post rfl he
    rcases ((changing_of_run h).of_post he).vacant with ⟨hempty, _⟩ | ⟨_, hmissed⟩
    · exact absurd hempty hne
    · exact hmissed
  · intro hok hi hd
    obtain ⟨action, rfl⟩ := exists_of_isOk hok
    obtain ⟨index, hi⟩ := Option.isSome_iff_exists.1 hi
    obtain ⟨es, rfl, ha⟩ := applying_of_ok h hi hd
    have hsub {es₁ es₂ es₃ : Trace} (e : Event) (he : e ∈ es₁ ++ es₂) :
        e ∈ Event.record .reconcileStarted :: (es₁ ++ (es₂ ++ es₃)) ++
          [.record (.reconcileEnded false)] := by
      rw [← List.append_assoc]
      exact List.mem_append_left _ (List.mem_cons_of_mem _ (List.mem_append_left _ he))
    have hasked {es₁ es₂ es₃ : Trace} {session : Session} {s : Sighting} {c' : Cluster}
        (hc : Carried (connect config.apiUrl c) es₁ (.ok session))
        (ho : Carried (observe session c) es₂ (.ok s, c')) :
        ∃ session request outcome, Connected config.apiUrl c (Event.record .reconcileStarted ::
            (es₁ ++ (es₂ ++ es₃)) ++ [.record (.reconcileEnded false)]) session ∧
          session.request (.get c.externalName) = .ok request ∧
          Event.database request outcome ∈ Event.record .reconcileStarted ::
            (es₁ ++ (es₂ ++ es₃)) ++ [.record (.reconcileEnded false)] := by
      obtain ⟨request, outcome, hr, he⟩ := asked_of_observe ho hne
      refine ⟨session, request, outcome, ?_, hr, hsub _ (List.mem_append_right _ he)⟩
      exact connected_of_connecting (.of_carried hc) fun e he => hsub e (List.mem_append_left _ he)
    cases ha with
    | absent hc ho _ => exact hasked hc ho
    | present hc ho _ => exact hasked hc ho

/-- **A new database is bound unless its identifier is empty.** When a reconcile succeeds that
created a database, the store confirmed its identifier exactly if it is not empty. If
the responses of the store tell, a request that recorded it was accepted exactly then, and the
identifier that the store now holds is the new one, or else the old one. Any later reconcile with a
new identifier that is not empty goes by it. -/
theorem recorded_iff_ne_empty (h : (exchanges config c).Run tr (.ok action)) (he : e ∈ tr)
    (hc : created? e = some db) :
    ((∃ kept, Answered (.setExternalName c.anyName db.id) tr kept) ↔ db.id ≠ "") ∧
    ∀ name, c.metadata.name = some name → (∀ ch ∈ name.toList, Kube.goesOn ch = true) →
      (∀ g ∈ tr, decided g = true) →
        ((∃ g ∈ tr, naming name g = true) ↔ db.id ≠ "") ∧
        storedName name c.externalName tr = (if db.id = "" then c.externalName else db.id) ∧
        (db.id ≠ "" → ∀ c' tr' r', c'.externalName = storedName name c.externalName tr →
          (exchanges config c').Run tr' r' → GoesBy config.apiUrl c' db.id tr' r') := by
  obtain ⟨before, es, after, rfl, hnamed⟩ := named_of_run h he hc
  have hsub : ∀ g ∈ es, g ∈ before ++ (es ++ after) := by
    intro g hg
    exact List.mem_append_right _ (List.mem_append_left _ hg)
  constructor
  · constructor
    · rintro ⟨kept, request, outcome, hr, hm, _⟩
      exact hnamed.ne_empty hm (annotates_of_setExternalName hr outcome)
    · intro hne
      obtain ⟨kept, request, outcome, hr, hm, hok⟩ := hnamed.confirmed rfl hne
      exact ⟨kept, request, outcome, hr, hsub _ hm, hok⟩
  intro name hname hgo hdecided
  have hnaming (hne : db.id ≠ "") : ∃ g ∈ es, naming name g = true :=
    hnamed.exists_naming rfl hne hname hgo fun g hg => hdecided g (hsub g hg)
  have hstored : storedName name c.externalName (before ++ (es ++ after)) =
      if db.id = "" then c.externalName else db.id := by
    rw [hnamed.storedName_eq name]
    by_cases hempty : db.id = ""
    · rw [hnamed.unnamed hempty, if_pos hempty]
      rfl
    · rw [if_neg hempty, if_pos (List.any_eq_true.2 (hnaming hempty))]
  refine ⟨⟨?_, ?_⟩, hstored, ?_⟩
  · rintro ⟨g, hg, hn⟩
    exact hnamed.ne_empty hg (annotates_of_naming hn)
  · intro hne
    obtain ⟨g, hg, hn⟩ := hnaming hne
    exact ⟨g, hsub g hg, hn⟩
  · intro hne c' tr' r' hc' hr'
    rw [hstored, if_neg hne] at hc'
    exact goesBy_of_run hr' hc' hne

namespace Sample

/-- What is created is ready, but has an empty identifier. -/
def givesEmpty : (q : Question) → Answer q := answer (database "" (some connection)) none

theorem named_givesA : (play givesA (cluster "")).2.isOk = true ∧
    (∃ e ∈ (play givesA (cluster "")).1, (created? e).any (·.id == "a") = true) ∧
    ∀ e ∈ (play givesA (cluster "")).1, decided e = true := by
  decide +kernel

theorem unnamed_givesEmpty : (play givesEmpty (cluster "")).2.isOk = true ∧
    (∃ e ∈ (play givesEmpty (cluster "")).1, (created? e).isSome = true) ∧
    (∀ e ∈ (play givesEmpty (cluster "")).1, annotates e = false ∧ asks .get e = false) ∧
    storedName "db" "" (play givesEmpty (cluster "")).1 = "" := by
  decide +kernel

end Sample

open Sample in
/-- An identifier that is not empty is recorded, and a reconcile that finds no database for it
goes by it. -/
theorem recorded_iff_ne_empty_anew :
    (∃ kept, Answered (.setExternalName "db" "a") (play givesA (cluster "")).1 kept) ∧
      storedName "db" "" (play givesA (cluster "")).1 = "a" ∧
      GoesBy Sample.config.apiUrl (cluster "a") "a" (play givesB (cluster "a")).1
        (play givesB (cluster "a")).2 := by
  obtain ⟨hok, ⟨e, he, hc⟩, hdecided⟩ := named_givesA
  obtain ⟨action, hrun⟩ := run_play_of_isOk hok
  obtain ⟨db, hdb, hid⟩ := (Option.any_eq_true _ _).1 hc
  have hid : db.id = "a" := eq_of_beq hid
  have hne : db.id ≠ "" := hid ▸ by decide
  obtain ⟨hanswered, hstore⟩ := recorded_iff_ne_empty hrun he hdb
  obtain ⟨_, hstored, hnext⟩ := hstore "db" rfl (List.all_eq_true.1 (by decide)) hdecided
  rw [if_neg hne, hid] at hstored
  rw [hid] at hanswered hnext
  refine ⟨hanswered.2 (by decide), hstored, hnext (by decide) (cluster "a") _ _ ?_ (run_play _ _)⟩
  exact (show (cluster "a").externalName = "a" by decide).trans hstored.symm

open Sample in
/-- **An empty identifier leaves the cluster unbound**: a reconcile that creates a database succeeds
and records no identifier, and the one after it creates another without looking for the first. -/
theorem unbound_of_empty : ∃ tr action e db, History Sample.config "db" [tr, tr] ∧
    (exchanges Sample.config (cluster "")).Run tr (.ok action) ∧ e ∈ tr ∧ created? e = some db ∧
      ∀ g ∈ tr, annotates g = false ∧ asks .get g = false := by
  obtain ⟨hok, ⟨e, he, hc⟩, hquiet, hstored⟩ := unnamed_givesEmpty
  obtain ⟨action, hrun⟩ := run_play_of_isOk hok
  obtain ⟨db, hdb⟩ := Option.isSome_iff_exists.1 hc
  have hfirst : History Sample.config "db" ([] ++ [(play givesEmpty (cluster "")).1]) :=
    .reconcile .start rfl rfl hrun
  have hunbound : (cluster "").externalName = storedName "db" ""
      (([] : List Trace) ++ [(play givesEmpty (cluster "")).1]).flatten := by
    rw [List.nil_append, List.flatten_singleton, hstored]
    decide
  exact ⟨_, action, e, db, .reconcile hfirst rfl hunbound hrun, hrun, he, hdb, hquiet⟩

end ClusterKeeper.Exchange
