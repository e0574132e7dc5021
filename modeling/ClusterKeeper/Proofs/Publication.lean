import ClusterKeeper.Proofs.Base64
import ClusterKeeper.Proofs.History

/-!
# Publication

Connection details are published when a database is created, or not at all. They come with the
answer to the creation, or else with that to one request for the new database.

* `newDetails`: the details of the database that is created in some exchanges.
* `published_iff`: a reconcile that succeeds has the details applied exactly if there are any.
* `observed_without_publication`: a connection that is first seen later is never published.
-/

namespace ClusterKeeper.Exchange

open Reconcile

/-- The database that a request for one was answered with, if it was. -/
def fetched? : Event → Option Database
  | ⟨.database request, .response r⟩ =>
    if request.method = .get ∧ Http.isSuccess r.status then (DatabaseCall.opened r).toOption.join
    else none
  | _ => none

/-- The details of a new database: its own if it has a connection, and else those of the first
database that is fetched later. -/
def detailsOf (db : Database) (later : Trace) : ConnectionDetails :=
  if db.connection.isSome then .ofDatabase db
  else (later.findSome? fetched?).elim .empty .ofDatabase

/-- The details of the first database that is created in some exchanges. -/
def newDetails : Trace → Option ConnectionDetails
  | [] => none
  | e :: rest =>
    match created? e with
    | some db => some (detailsOf db rest)
    | none => newDetails rest

/-- Whether an object is applied in an exchange. -/
def applies : Event → Bool
  | ⟨.kube request, _⟩ => request.contentType = some "application/apply-patch+yaml"
  | _ => false

/-- The secret with `details` for a cluster is applied, and the store gives it back. -/
def Published (c : Cluster) (reference : SecretReference) (details : ConnectionDetails)
    (tr : Trace) : Prop :=
  ∃ request outcome secret,
    (Kube.Call.applySecret reference (c.connectionSecret reference details)).request = .ok request ∧
    Event.kube request outcome ∈ tr ∧
    Kube.Call.interpret (.applySecret reference (c.connectionSecret reference details)) outcome =
      .ok secret

variable {session : Session} {c c' : Cluster} {reference : SecretReference}
  {details details' : ConnectionDetails} {es later pre tr : Trace} {e : Event}

theorem newDetails_append (h : ∀ e ∈ pre, created? e = none) :
    newDetails (pre ++ later) = newDetails later := by
  induction pre with
  | nil => rfl
  | cons e pre ih =>
    rw [List.forall_mem_cons] at h
    rw [List.cons_append, newDetails, h.1]
    exact ih h.2

theorem newDetails_eq_none (h : ∀ e ∈ tr, created? e = none) : newDetails tr = none := by
  have ha : newDetails (tr ++ []) = none := newDetails_append h
  rwa [List.append_nil] at ha

theorem Within.fetched_none {kinds : List Kind} (h : Within kinds es) (hk : .fetch ∉ kinds) :
    ∀ e ∈ es, fetched? e = none := by
  intro e he
  cases h e he with
  | clock now => rfl
  | pause millis => rfl
  | record _ => rfl
  | kube _ _ outcome => rfl
  | database _ _ outcome =>
    cases outcome with
    | noResponse => rfl
    | response r => exact if_neg fun hp => hk (h.kind_mem he hp.1 rfl)

/-- Only a secret is applied. -/
theorem Within.applies_false {kinds : List Kind} (h : Within kinds es) (hk : .publish ∉ kinds) :
    ∀ e ∈ es, applies e = false := by
  intro e he
  cases h e he with
  | clock now => rfl
  | pause millis => rfl
  | record _ => rfl
  | database _ _ outcome => rfl
  | @kube call hc request hr outcome =>
    refine decide_eq_false ?_
    rw [Kube.Call.contentType_of_request hr]
    cases call with
    | applySecret _ _ => exact absurd hc hk
    | _ => simp [Kube.Call.typeOf]

theorem applies_of_applySecret {secret : Secret} {request : Kube.Request}
    (h : (Kube.Call.applySecret reference secret).request = .ok request) (outcome : Http.Outcome) :
    applies (.kube request outcome) = true :=
  decide_eq_true (Kube.Call.contentType_of_request h)

/-- What a request for a database is answered with is what the call makes of its outcome. -/
theorem fetched?_of_get {request : DatabaseRequest} {outcome : Http.Outcome} {i : String}
    (h : request.method = .get) :
    fetched? (.database request outcome) =
      (DatabaseCall.interpret request.url outcome (.get i)).toOption := by
  unfold fetched? DatabaseCall.interpret
  cases outcome with
  | noResponse => rfl
  | response r =>
    by_cases hs : Http.isSuccess r.status = true
    · simp only [h, hs, DatabaseCall.arrived, DatabaseCall.checked, bind, Except.bind, if_true,
        and_self]
      cases DatabaseCall.opened r with
      | error f => rfl
      | ok database? => cases database? <;> rfl
    · simp [h, hs, DatabaseCall.arrived, DatabaseCall.checked, bind, Except.bind, Except.toOption]

/-- A call for a database shows in what is fetched. -/
theorem findSome?_of_called {i : String} {a : Except CallFailure (DatabaseCall.get i).Answer}
    (h : Called session (.get i) es a) : es.findSome? fetched? = a.toOption := by
  cases h with
  | refused _ => rfl
  | sent hr outcome =>
    rw [List.findSome?_singleton]
    exact fetched?_of_get (method_of_request hr)

theorem detailsOf_fetching {db : Database} (h : Lifecycle.Fetching session db es details)
    (hl : ∀ e ∈ later, fetched? e = none) :
    detailsOf db (Lifecycle.counted "create" true :: es ++ later) = details := by
  have hfind {a : Except CallFailure Database} (hc : Called session (.get db.id) es a) :
      (Lifecycle.counted "create" true :: es ++ later).findSome? fetched? = a.toOption := by
    have hn : later.findSome? fetched? = none := List.findSome?_eq_none_iff.2 hl
    have hr : fetched? (Lifecycle.counted "create" true) = none := rfl
    rw [List.cons_append, List.findSome?_cons, hr, List.findSome?_append, hn, Option.or_none]
    exact findSome?_of_called hc
  unfold detailsOf
  cases h with
  | own hs => rw [if_pos hs]
  | fetched hs hc =>
    rw [if_neg (by rw [hs]; exact Bool.false_ne_true), hfind hc]
    rfl
  | unfetched hs hc =>
    rw [if_neg (by rw [hs]; exact Bool.false_ne_true), hfind hc]
    rfl

/-- A cluster that was created differs in its identifier and its status. -/
theorem newDetails_of_create (h : Carried (Lifecycle.create session c) es (.ok details, c'))
    (hs : c.spec.connectionSecretRef = some reference) (hl : ∀ e ∈ later, fetched? e = none) :
    newDetails (es ++ later) = some details ∧ c'.spec = c.spec ∧
      ∀ details, c'.connectionSecret reference details = c.connectionSecret reference details := by
  have hcreate := Lifecycle.Creating.of_carried h
  generalize hp : ((.ok details, c') : Except Error ConnectionDetails × Cluster) = p at hcreate
  cases hcreate with
  | unnamed _ _ => cases hp
  | failed _ _ _ => cases hp
  | empty _ _ _ => cases hp
  | bound _ hn _ _ => rw [hs] at hn; cases hn
  | @detailed _ _ now es₁ es₂ db _ hc hd =>
    cases hp
    refine ⟨?_, rfl, fun _ => rfl⟩
    rcases created_of_called "" hc with ⟨db', e, ha, rfl, he⟩ | ⟨hne, _⟩
    · cases ha
      have hnew :
          newDetails (.clock now :: e :: (Lifecycle.counted "create" true :: es₂ ++ later)) =
            some (detailsOf db (Lifecycle.counted "create" true :: es₂ ++ later)) := by
        rw [newDetails, newDetails, he]
        rfl
      rw [← detailsOf_fetching hd hl, ← hnew]
      rfl
    · exact absurd rfl (hne db)

/-! ## The parts of a reconcile -/

variable {apiUrl : String} {interval index : Nat} {config : Config} {action : Action}

/-- A live cluster with the finalizer has the work of its kind done. -/
theorem applying_of_run {r : Except Error Action} (h : (exchanges config c).Run tr r)
    (hi : Finalizer.index? c = some index) (hd : Finalizer.isDeleted c = false) :
    ∃ es r', r = r'.mapError .applyFailed ∧
      tr = .record .reconcileStarted :: es ++ [.record (.reconcileEnded (!r.isOk))] ∧
        Applying config.apiUrl config.reconcileInterval c es r' := by
  obtain ⟨es, hg, rfl⟩ := run_exchanges_iff.1 h
  cases hg with
  | applied _ _ ha => exact ⟨es, _, rfl, rfl, ha⟩
  | uncleaned _ hd' _ _ => rw [hd] at hd'; cases hd'
  | released _ hd' _ _ _ => rw [hd] at hd'; cases hd'
  | marked hi' _ _ _ => rw [hi] at hi'; cases hi'
  | nameless hs _ => rw [hi, hd] at hs; cases hs
  | ignored _ hd' => rw [hd] at hd'; cases hd'

/-- If all goes well, so does the work. -/
theorem applying_of_ok (h : (exchanges config c).Run tr (.ok action))
    (hi : Finalizer.index? c = some index) (hd : Finalizer.isDeleted c = false) :
    ∃ es, tr = .record .reconcileStarted :: es ++ [.record (.reconcileEnded false)] ∧
      Applying config.apiUrl config.reconcileInterval c es (.ok action) := by
  obtain ⟨es, r', hr, rfl, ha⟩ := applying_of_run h hi hd
  cases r' with
  | error e => cases hr
  | ok a =>
    cases hr
    exact ⟨es, rfl, ha⟩

/-- **Introducing with success** ends in publishing the details of what was created. -/
theorem introducing_publishes (later : Trace) (h : Introducing session c es (.ok action))
    (hs : c.spec.connectionSecretRef = some reference) (hl : ∀ e ∈ later, fetched? e = none) :
    ∃ c' details before es', es = before ++ es' ∧ (∀ e ∈ before, applies e = false) ∧
      newDetails (es ++ later) = some details ∧ c'.spec = c.spec ∧
      (∀ details, c'.connectionSecret reference details = c.connectionSecret reference details) ∧
      Publishing c' details es' (.ok ()) := by
  cases h with
  | @named es₁ es₂ _ creation c' _ hc hn hp =>
    cases hp with
    | @presented es₃ es₄ details hst hcr hpub =>
      cases hcr
      have hbetween := (within_of_named hn).append (within_of_recordStatus hst)
      have hafter := (within_of_named hn).append
        ((within_of_recordStatus hst).append (within_of_publish hpub))
      have hl' : ∀ e ∈ es₂ ++ (es₃ ++ es₄) ++ later, fetched? e = none :=
        List.forall_mem_append.2 ⟨hafter.fetched_none (by decide), hl⟩
      obtain ⟨hnew, hspec, hsecret⟩ := newDetails_of_create hc hs hl'
      refine ⟨c', details, es₁ ++ (es₂ ++ es₃), es₄, by simp only [List.append_assoc], ?_, ?_,
        hspec, hsecret, accessed_publish.1 hpub⟩
      · exact ((within_of_create hc).append hbetween).applies_false (by decide)
      · rw [← hnew]
        simp only [List.append_assoc]

/-- Nothing is created, and nothing applied, up to where a database was looked for. -/
theorem quiet_of_observe {p : Except Error Sighting × Cluster} {r : Except Error Session}
    (hc : Carried (Lifecycle.connect apiUrl c) es r)
    (ho : Carried (Lifecycle.observe session c) later p) :
    ∀ e ∈ Event.record .reconcileStarted :: (es ++ later),
      created? e = none ∧ applies e = false := by
  have hwithin : Within [.turn, .read, .fetch, .count, .store]
      (Event.record .reconcileStarted :: (es ++ later)) :=
    (((within_of_connect hc).append (within_of_observe ho)).mono (by decide)).record .turn rfl
      (by decide)
  exact fun e he => ⟨hwithin.created_none (by decide) e he, hwithin.applies_false (by decide) e he⟩

theorem quiet_of_maintaining {name : String}
    (h : Maintaining interval name c es (.ok action)) :
    ∀ e ∈ es, created? e = none ∧ applies e = false := by
  have hwithin := within_of_maintaining h
  exact fun e he => ⟨hwithin.created_none (by decide) e he, hwithin.applies_false (by decide) e he⟩

/-- **A reconcile with success** publishes the details of what it created, or creates nothing and
applies nothing. -/
theorem silent_or_publishes (h : (exchanges config c).Run tr (.ok action))
    (hi : Finalizer.index? c = some index) (hd : Finalizer.isDeleted c = false)
    (hs : c.spec.connectionSecretRef = some reference) :
    (newDetails tr = none ∧ ∀ e ∈ tr, applies e = false) ∨
      ∃ c' details before es after, tr = before ++ es ++ after ∧
        (∀ e ∈ before, applies e = false) ∧ (∀ e ∈ after, applies e = false) ∧
        newDetails tr = some details ∧ c'.spec = c.spec ∧
        (∀ details, c'.connectionSecret reference details =
          c.connectionSecret reference details) ∧
        Publishing c' details es (.ok ()) := by
  obtain ⟨es, rfl, ha⟩ := applying_of_ok h hi hd
  cases ha with
  | @absent es₁ es₂ es₃ session _ hc ho hin =>
    have hquiet := quiet_of_observe hc ho
    obtain ⟨c', details, before, es₄, rfl, hb, hnew, hspec, hsecret, hp⟩ :=
      introducing_publishes [.record (.reconcileEnded false)] hin hs
        (List.forall_mem_singleton.2 rfl)
    have hsplit : Event.record .reconcileStarted :: (es₁ ++ (es₂ ++ (before ++ es₄))) ++
        [Event.record (.reconcileEnded false)] = Event.record .reconcileStarted :: (es₁ ++ es₂) ++
          (before ++ es₄ ++ [Event.record (.reconcileEnded false)]) := by
      simp only [List.append_assoc, List.cons_append]
    refine Or.inr ⟨c', details, .record .reconcileStarted :: (es₁ ++ es₂) ++ before, es₄,
      [.record (.reconcileEnded false)], ?_, ?_, ?_, ?_, hspec, hsecret, hp⟩
    · simp only [List.append_assoc, List.cons_append]
    · exact List.forall_mem_append.2 ⟨fun e he => (hquiet e he).2, hb⟩
    · exact List.forall_mem_singleton.2 rfl
    · rw [hsplit, newDetails_append fun e he => (hquiet e he).1]
      exact hnew
  | @present es₁ es₂ es₃ session c' _ hc ho hm =>
    have hquiet : ∀ e ∈ Event.record .reconcileStarted :: (es₁ ++ (es₂ ++ es₃)) ++
        [Event.record (.reconcileEnded false)], created? e = none ∧ applies e = false := by
      rw [← List.append_assoc, ← List.cons_append]
      exact List.forall_mem_append.2 ⟨List.forall_mem_append.2
        ⟨quiet_of_observe hc ho, quiet_of_maintaining hm⟩, List.forall_mem_singleton.2 ⟨rfl, rfl⟩⟩
    exact Or.inl ⟨newDetails_eq_none fun e he => (hquiet e he).1, fun e he => (hquiet e he).2⟩

theorem bytesJson_injective {xs ys : Bytes} (h : Secret.bytesJson xs = Secret.bytesJson ys) :
    xs = ys := by
  have htext : String.ofList (Base64.encode xs) = String.ofList (Base64.encode ys) :=
    Json.str.inj h
  have hletters := congrArg String.toList htext
  rw [String.toList_ofList, String.toList_ofList] at hletters
  exact Base64.encode_injective hletters

/-- A request to apply a connection secret says which details it holds. -/
theorem details_of_request {request : Kube.Request}
    (h : (Kube.Call.applySecret reference (c.connectionSecret reference details)).request =
      .ok request)
    (h' : (Kube.Call.applySecret reference (c'.connectionSecret reference details')).request =
      .ok request) : details = details' := by
  have hbody := (Kube.Request.targets_of_write h).body.symm.trans
    (Kube.Request.targets_of_write h').body
  have hdata : some (details.toJson Secret.bytesJson) = some (details'.toJson Secret.bytesJson) :=
    congrArg (fun j => j.bind (Json.get? "data")) hbody
  have hentries : details.entries.map (fun e => (e.1, Secret.bytesJson e.2)) =
      details'.entries.map fun e => (e.1, Secret.bytesJson e.2) :=
    Json.obj.inj (Option.some.inj hdata)
  have hinj : ∀ x y : String × Bytes, (x.1, Secret.bytesJson x.2) = (y.1, Secret.bytesJson y.2) →
      x = y :=
    fun x y hxy => Prod.ext (Prod.mk.inj hxy).1 (bytesJson_injective (Prod.mk.inj hxy).2)
  obtain ⟨entries, _⟩ := details
  obtain ⟨entries', _⟩ := details'
  obtain rfl := (List.map_inj_right hinj).1 hentries
  rfl

/-- Publication is looked for where anything is applied at all. -/
theorem published_append_iff {before after : Trace} (hb : ∀ e ∈ before, applies e = false)
    (ha : ∀ e ∈ after, applies e = false) :
    Published c reference details (before ++ es ++ after) ↔ Published c reference details es := by
  constructor
  · rintro ⟨request, outcome, secret, hr, hm, hi⟩
    have htrue := applies_of_applySecret hr outcome
    refine ⟨request, outcome, secret, hr, ?_, hi⟩
    rw [List.mem_append, List.mem_append] at hm
    rcases hm with (hm | hm) | hm
    · rw [hb _ hm] at htrue; cases htrue
    · exact hm
    · rw [ha _ hm] at htrue; cases htrue
  · rintro ⟨request, outcome, secret, hr, hm, hi⟩
    exact ⟨request, outcome, secret, hr, List.mem_append_left _ (List.mem_append_right _ hm), hi⟩

theorem not_published (h : ∀ e ∈ tr, applies e = false) : ¬ Published c reference details tr := by
  rintro ⟨request, outcome, secret, hr, hm, _⟩
  have htrue := applies_of_applySecret hr outcome
  rw [h _ hm] at htrue
  cases htrue

/-- **Publishing with success** has the details applied, unless they are empty. -/
theorem published_of_publishing_iff (hp : Publishing c' details' es (.ok ()))
    (href : c'.spec.connectionSecretRef = some reference)
    (hsecret : c'.connectionSecret reference details' = c.connectionSecret reference details') :
    Published c reference details es ↔ details' = details ∧ details.isEmpty = false := by
  generalize hok : (.ok () : Except Error Unit) = r at hp
  cases hp with
  | nothing he =>
    refine iff_of_false (not_published (List.forall_mem_nil _)) ?_
    rintro ⟨rfl, hne⟩
    exact absurd (he.symm.trans hne) (by decide)
  | unasked _ hnone => cases hnone.symm.trans href
  | @asked he reference' href' _ answer hasked =>
    cases href'.symm.trans href
    rw [hsecret] at hasked
    rcases asked_iff.1 hasked with ⟨f, _, _, ha⟩ | ⟨request, outcome, hr, rfl, ha⟩
    · rw [ha] at hok
      cases hok
    cases answer with
    | error f => cases hok
    | ok secret =>
      constructor
      · rintro ⟨request', outcome', _, hr', hm, _⟩
        cases List.mem_singleton.1 hm
        obtain rfl := details_of_request hr' hr
        exact ⟨rfl, he⟩
      · rintro ⟨rfl, _⟩
        exact ⟨request, outcome, secret, hr, List.mem_singleton_self _, ha.symm⟩

/-- **Publication.** In a reconcile that succeeds, of a live cluster that asks for a connection
secret, the secret is applied exactly if a database is created whose details are not empty. It
holds these details. -/
theorem published_iff (h : (exchanges config c).Run tr (.ok action))
    (hi : Finalizer.index? c = some index) (hd : Finalizer.isDeleted c = false)
    (hs : c.spec.connectionSecretRef = some reference) :
    Published c reference details tr ↔ newDetails tr = some details ∧ details.isEmpty = false := by
  rcases silent_or_publishes h hi hd hs with ⟨hn, ha⟩ |
    ⟨c', details', before, es, after, rfl, hb, ha, hn, hspec, hsecret, hp⟩
  · refine iff_of_false (not_published ha) ?_
    rw [hn]
    rintro ⟨hnone, _⟩
    cases hnone
  · have href : c'.spec.connectionSecretRef = some reference := by rw [hspec, hs]
    rw [published_append_iff hb ha, published_of_publishing_iff hp href (hsecret _), hn,
      Option.some.injEq]

namespace Sample

/-- A connection. -/
def connection : Json := .obj [("uri", .str "u")]

/-- What is created has a connection from the start. -/
def readyAtOnce : (q : Question) → Answer q := answer (database "a" (some connection)) none

/-- What is created has no connection yet, and is not found when it is looked for at once. -/
def unready : (q : Question) → Answer q := answer (database "a" none) none

/-- The database is found, and has a connection. -/
def ready : (q : Question) → Answer q :=
  answer (database "a" none) (some (database "a" (some connection)))

theorem newDetails_readyAtOnce : (play readyAtOnce (cluster "")).2.isOk = true ∧
    (newDetails (play readyAtOnce (cluster "")).1).any (fun d => !d.isEmpty) = true := by
  decide +kernel

theorem applies_unready : (play unready (cluster "")).2.isOk = true ∧
    storedName "db" "" (play unready (cluster "")).1 = "a" ∧
    ∀ e ∈ (play unready (cluster "")).1, applies e = false := by
  decide +kernel

theorem applies_ready : (play ready (cluster "a")).2.isOk = true ∧
    (∃ e ∈ (play ready (cluster "a")).1,
      (fetched? e).any fun db => !(ConnectionDetails.ofDatabase db).isEmpty) ∧
    ∀ e ∈ (play ready (cluster "a")).1, applies e = false := by
  decide +kernel

/-- A reconcile that succeeds, as a run. -/
theorem run_play_of_isOk {answers : (q : Question) → Answer q} {c : Cluster}
    (h : (play answers c).2.isOk = true) :
    ∃ action, (exchanges Sample.config c).Run (play answers c).1 (.ok action) := by
  obtain ⟨action, hr⟩ := exists_of_isOk h
  exact ⟨action, hr ▸ run_play answers c⟩

end Sample

open Sample in
/-- The details of a database that is ready at once are published. -/
theorem published_readyAtOnce : ∃ reference details,
    Published (cluster "") reference details (play readyAtOnce (cluster "")).1 := by
  obtain ⟨hok, hnew⟩ := newDetails_readyAtOnce
  obtain ⟨action, hrun⟩ := run_play_of_isOk hok
  rw [Option.any_eq_true] at hnew
  obtain ⟨details, hd, he⟩ := hnew
  have hi : Finalizer.index? (cluster "") = some 0 := by decide
  exact ⟨_, details, (published_iff hrun hi rfl rfl).2 ⟨hd, by simpa using he⟩⟩

open Sample in
/-- **A connection that is first seen later is lost**: a database is created before it has a
connection, and when it is found with one, nothing is published. -/
theorem observed_without_publication : ∃ c c' tr tr' action action' db,
    c.spec.connectionSecretRef.isSome = true ∧ c'.spec = c.spec ∧
      History Sample.config "db" [tr, tr'] ∧
      (exchanges Sample.config c).Run tr (.ok action) ∧
      (exchanges Sample.config c').Run tr' (.ok action') ∧
      Finalizer.index? c' = some 0 ∧ Finalizer.isDeleted c' = false ∧
      (∃ e ∈ tr', fetched? e = some db) ∧ (ConnectionDetails.ofDatabase db).isEmpty = false ∧
      ∀ e ∈ tr ++ tr', applies e = false := by
  obtain ⟨hok, hst, ha⟩ := applies_unready
  obtain ⟨hok', ⟨e, he, hf⟩, ha'⟩ := applies_ready
  obtain ⟨action, hrun⟩ := run_play_of_isOk hok
  obtain ⟨action', hrun'⟩ := run_play_of_isOk hok'
  rw [Option.any_eq_true] at hf
  obtain ⟨db, hdb, hne⟩ := hf
  have hfirst : History Sample.config "db" ([] ++ [(play unready (cluster "")).1]) :=
    .reconcile .start rfl rfl hrun
  have hc : (cluster "a").externalName =
      storedName "db" "" (([] : List Trace) ++ [(play unready (cluster "")).1]).flatten := by
    rw [List.nil_append, List.flatten_singleton, hst]
    rfl
  have h : History Sample.config "db"
      ([] ++ [(play unready (cluster "")).1] ++ [(play ready (cluster "a")).1]) :=
    .reconcile hfirst rfl hc hrun'
  exact ⟨cluster "", cluster "a", _, _, action, action', db, rfl, rfl, h, hrun, hrun', by decide,
    rfl, ⟨e, he, hdb⟩, by simpa using hne, List.forall_mem_append.2 ⟨ha, ha'⟩⟩

end ClusterKeeper.Exchange
