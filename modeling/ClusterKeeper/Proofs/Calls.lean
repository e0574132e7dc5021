import ClusterKeeper.Proofs.Outcomes
import ClusterKeeper.Proofs.Reconcile
import ClusterKeeper.Proofs.Requests
import ClusterKeeper.Proofs.Store

/-!
# The calls that a part makes

Every exchange is made for a call, or counts something, or is for neither. A part of a reconcile
makes calls of few kinds, so that what it cannot exchange is seen from these: a property that needs
a call of some kind fails in all parts that make none.

* `Made`: an exchange for one of some calls or records.
* `Kind`, `Within`: exchanges for calls and records of some kinds only.
* `within_of_connect`, `within_of_observe`, `within_of_create`, `within_of_delete`: the verbs.
* `within_of_naming`, `within_of_recordStatus`, `within_of_publish`: what is written.
* `within_of_applying`, `within_of_cleaning`: the work on a cluster.
* `Within.kind_mem`: a request to the remote API tells its kind.
-/

namespace ClusterKeeper.Exchange

open Reconcile

/-- The exchange is made for a call of which `K` or `D` holds, or for a record of which `R` does, or
for none. -/
inductive Made (K : Kube.Call → Prop) (D : DatabaseCall → Prop) (R : Metrics.Event → Prop) :
    Event → Prop
  | clock (now : Instant) : Made K D R (.clock now)
  | pause (millis : Nat) : Made K D R (.pause millis)
  | record {event : Metrics.Event} (hr : R event) : Made K D R (.record event)
  | kube {call : Kube.Call} (hk : K call) {request : Kube.Request}
      (h : call.request = .ok request) (outcome : Http.Outcome) : Made K D R (.kube request outcome)
  | database {call : DatabaseCall} (hd : D call) {session : Session} {request : DatabaseRequest}
      (h : session.request call = .ok request) (outcome : Http.Outcome) :
      Made K D R (.database request outcome)

/-- What a call asks for, or what a record is of. -/
inductive Kind
  /-- A provider configuration, or a secret with a token. -/
  | read
  /-- A cluster is stored as it is in memory. -/
  | store
  /-- The finalizers of a cluster are edited. -/
  | edit
  /-- The identifier of a cluster is recorded. -/
  | name
  /-- The status of a cluster is recorded. -/
  | status
  /-- Connection details are published. -/
  | publish
  /-- A database is fetched. -/
  | fetch
  /-- A database is created. -/
  | create
  /-- A database is deleted. -/
  | delete
  /-- A call of the remote API is counted. -/
  | count
  /-- The gauge of a cluster is set or dropped. -/
  | gauge
  /-- A reconcile starts or ends. -/
  | turn
  deriving DecidableEq

namespace Kind

def ofKube : Kube.Call → Kind
  | .getProviderConfig _ | .getSecret _ _ => .read
  | .replaceCluster _ _ => .store
  | .editFinalizers _ _ => .edit
  | .setExternalName _ _ => .name
  | .setStatus _ _ => .status
  | .applySecret _ _ => .publish

def ofDatabase : DatabaseCall → Kind
  | .get _ => .fetch
  | .create _ => .create
  | .delete _ => .delete

/-- A request to the remote API tells its kind by its method. -/
def ofMethod? : Http.Method → Option Kind
  | .get => some .fetch
  | .post => some .create
  | .delete => some .delete
  | _ => none

def ofRecord : Metrics.Event → Kind
  | .externalCall _ _ => .count
  | .availability _ _ | .forgotten _ => .gauge
  | .reconcileStarted | .reconcileEnded _ => .turn

end Kind

/-- The exchanges are made for calls and records of the kinds, or for none. -/
def Within (kinds : List Kind) (es : Trace) : Prop :=
  ∀ e ∈ es, Made (fun call => .ofKube call ∈ kinds) (fun call => .ofDatabase call ∈ kinds)
    (fun event => .ofRecord event ∈ kinds) e

/-- No call of the object store. -/
abbrev noKube : Kube.Call → Prop := fun _ => False

/-- No call of the remote API. -/
abbrev noDatabase : DatabaseCall → Prop := fun _ => False

/-- No record. -/
abbrev noRecord : Metrics.Event → Prop := fun _ => False

/-- The calls that store unset parameters. -/
def storing (c : Cluster) (call : Kube.Call) : Prop :=
  ∃ db, call = .replaceCluster c.anyName (c.lateInitialize db)

variable {K K' : Kube.Call → Prop} {D D' : DatabaseCall → Prop} {R R' : Metrics.Event → Prop}
  {kinds kinds' : List Kind} {apiUrl : String} {session : Session} {c c' : Cluster}
  {es es' : Trace} {e : Event}

theorem Made.imp (h : Made K D R e) (hk : ∀ call, K call → K' call) (hd : ∀ call, D call → D' call)
    (hr : ∀ event, R event → R' event) : Made K' D' R' e := by
  cases h with
  | clock now => exact .clock now
  | pause millis => exact .pause millis
  | record h => exact .record (hr _ h)
  | kube h hreq outcome => exact .kube (hk _ h) hreq outcome
  | database h hreq outcome => exact .database (hd _ h) hreq outcome

theorem Within.mono (h : Within kinds es) (hs : kinds ⊆ kinds') : Within kinds' es :=
  fun e he => (h e he).imp (fun _ hk => hs hk) (fun _ hd => hs hd) fun _ hr => hs hr

theorem Within.append (h : Within kinds es) (h' : Within kinds' es') :
    Within (kinds ++ kinds') (es ++ es') :=
  List.forall_mem_append.2
    ⟨h.mono (List.subset_append_left _ _), h'.mono (List.subset_append_right _ _)⟩

theorem Within.clock (now : Instant) (h : Within kinds es) : Within kinds (.clock now :: es) :=
  List.forall_mem_cons.2 ⟨.clock now, h⟩

theorem Within.record {event : Metrics.Event} (h : Within kinds es) (kind : Kind)
    (he : .ofRecord event = kind) (hk : kind ∈ kinds) : Within kinds (.record event :: es) :=
  List.forall_mem_cons.2 ⟨.record (by rwa [he]), h⟩

theorem within_nil (kinds : List Kind) : Within kinds [] := List.forall_mem_nil _

/-! ## Single calls -/

theorem made_of_asked {call : Kube.Call} {a : Except Kube.Failure call.Answer}
    (h : Asked call es a) : ∀ e ∈ es, Made (· = call) noDatabase noRecord e := by
  cases h with
  | refused _ => exact List.forall_mem_nil _
  | sent hr outcome =>
    exact List.forall_mem_singleton.2 (Made.kube (K := (· = call)) rfl hr outcome)

theorem within_of_asked {call : Kube.Call} {a : Except Kube.Failure call.Answer}
    (h : Asked call es a) : Within [.ofKube call] es := by
  refine fun e he => (made_of_asked h e he).imp ?_ (fun _ => False.elim) fun _ => False.elim
  rintro _ rfl
  exact List.mem_singleton_self _

theorem made_of_called {call : DatabaseCall} {a : Except CallFailure call.Answer}
    (h : Called session call es a) : ∀ e ∈ es, Made noKube (· = call) noRecord e := by
  cases h with
  | refused _ => exact List.forall_mem_nil _
  | sent hr outcome =>
    exact List.forall_mem_singleton.2 (Made.database (D := (· = call)) rfl hr outcome)

theorem within_of_called {call : DatabaseCall} {a : Except CallFailure call.Answer}
    (h : Called session call es a) : Within [.ofDatabase call] es := by
  refine fun e he => (made_of_called h e he).imp (fun _ => False.elim) ?_ fun _ => False.elim
  rintro _ rfl
  exact List.mem_singleton_self _

theorem within_of_edited {name : String} {edit : Kube.FinalizerEdit}
    {a : Except Kube.Failure Cluster} (h : Asked (.editFinalizers name edit) es a) :
    Within [.edit] es := within_of_asked h

theorem within_of_fetched {id : String} {a : Except CallFailure Database}
    (h : Called session (.get id) es a) : Within [.fetch] es := within_of_called h

/-! ## The verbs -/

/-- **Connecting** reads a provider configuration and a secret. -/
theorem within_of_connect {r : Except Error Session}
    (h : Carried (Lifecycle.connect apiUrl c) es r) : Within [.read] es := by
  have hconfig {es : Trace} {a : Except Kube.Failure ProviderConfig}
      (h : Asked (Lifecycle.readConfig c) es a) : Within [.read] es := within_of_asked h
  have hboth {s : SecretKeySelector} {es es' : Trace} {a : Except Kube.Failure ProviderConfig}
      {a' : Except Kube.Failure Secret} (h : Asked (Lifecycle.readConfig c) es a)
      (h' : Asked (Lifecycle.readSecret s) es' a') : Within [.read] (es ++ es') := by
    have hsecret : Within [.read] es' := within_of_asked h'
    exact ((hconfig h).append hsecret).mono (by decide)
  cases Lifecycle.Connecting.of_carried h with
  | noConfig h₁ => exact hconfig h₁
  | noSelector h₁ _ => exact hconfig h₁
  | noSecret h₁ _ h₂ => exact hboth h₁ h₂
  | noToken h₁ _ h₂ _ => exact hboth h₁ h₂
  | noClient h₁ _ h₂ _ _ => exact hboth h₁ h₂
  | connected h₁ _ h₂ _ _ => exact hboth h₁ h₂

/-- **Observing** asks for the database of the cluster, and may store the cluster with unset
parameters taken from what it finds. -/
theorem made_of_observe {p : Except Error Sighting × Cluster}
    (h : Carried (Lifecycle.observe session c) es p) :
    ∀ e ∈ es, Made (storing c) (· = .get c.externalName) (Kind.ofRecord · = .count) e := by
  have hget {es es' : Trace} {a : Except CallFailure Database} {success : Bool}
      (hc : Called session (.get c.externalName) es a)
      (h : ∀ e ∈ es', Made (storing c) (· = .get c.externalName) (Kind.ofRecord · = .count) e) :
      ∀ e ∈ es ++ Lifecycle.counted "get" success :: es',
        Made (storing c) (· = .get c.externalName) (Kind.ofRecord · = .count) e :=
    List.forall_mem_append.2
      ⟨fun e he => (made_of_called hc e he).imp (fun _ => False.elim) (fun _ => id)
          fun _ => False.elim,
        List.forall_mem_cons.2 ⟨.record rfl, h⟩⟩
  have hput {db : Database} {es : Trace} {a : Except Kube.Failure Cluster}
      (h : Asked (.replaceCluster c.anyName (c.lateInitialize db)) es a) :
      ∀ e ∈ es, Made (storing c) (· = .get c.externalName) (Kind.ofRecord · = .count) e :=
    fun e he => (made_of_asked h e he).imp (fun _ h => ⟨db, h⟩) (fun _ => False.elim)
      fun _ => False.elim
  cases Lifecycle.Observing.of_carried h with
  | unbound _ => exact List.forall_mem_nil _
  | missing _ hc _ => exact hget hc (List.forall_mem_nil _)
  | failed _ hc _ => exact hget hc (List.forall_mem_nil _)
  | found _ hc ha =>
    refine hget hc ?_
    cases ha with
    | settled _ now => exact List.forall_mem_singleton.2 (.clock now)
    | unstored _ hr => exact hput hr
    | stored _ hr now =>
      exact List.forall_mem_append.2 ⟨hput hr, List.forall_mem_singleton.2 (.clock now)⟩

theorem within_of_observe {p : Except Error Sighting × Cluster}
    (h : Carried (Lifecycle.observe session c) es p) : Within [.fetch, .count, .store] es := by
  refine fun e he => (made_of_observe h e he).imp ?_ ?_ ?_
  · rintro _ ⟨db, rfl⟩
    simp [Kind.ofKube]
  · rintro _ rfl
    simp [Kind.ofDatabase]
  · intro event hr
    simp [hr]

/-- **Creating** asks for a database, and then maybe for its details. -/
theorem within_of_create {p : Except Error ConnectionDetails × Cluster}
    (h : Carried (Lifecycle.create session c) es p) : Within [.create, .count, .fetch] es := by
  have hask {now : Instant} {es es' : Trace} {a : Except CallFailure (Option Database)}
      {success : Bool} (hc : Called session (Lifecycle.ask c) es a)
      (h : Within [.create, .count, .fetch] es') : Within [.create, .count, .fetch]
        (.clock now :: es ++ Lifecycle.counted "create" success :: es') := by
    have hcalled : Within [.create] es := within_of_called hc
    exact ((hcalled.clock now).append (h.record .count rfl (by decide))).mono (by decide)
  cases Lifecycle.Creating.of_carried h with
  | unnamed _ now => exact (within_nil _).clock now
  | failed _ now hc => exact hask hc (within_nil _)
  | empty _ now hc => exact hask hc (within_nil _)
  | bound _ _ now hc => exact hask hc (within_nil _)
  | detailed _ _ now hc hd =>
    refine hask hc ?_
    cases hd with
    | own _ => exact within_nil _
    | fetched _ hg => exact (within_of_fetched hg).mono (by decide)
    | unfetched _ hg => exact (within_of_fetched hg).mono (by decide)

/-- **Deleting** asks to delete the database of the cluster. -/
theorem within_of_delete {p : Except Error Unit × Cluster}
    (h : Carried (Lifecycle.delete session c) es p) : Within [.delete, .count] es := by
  have hcalled {now : Instant} {es : Trace} {a : Except CallFailure Unit} {success : Bool}
      (hc : Called session (.delete c.externalName) es a) :
      Within [.delete, .count] (.clock now :: es ++ [Lifecycle.counted "delete" success]) :=
    ((within_of_called hc).clock now).append
      ((within_nil [.count]).record .count rfl (by decide))
  cases Lifecycle.Deleting.of_carried h with
  | unbound _ now => exact (within_nil _).clock now
  | deleted _ now hc => exact hcalled hc
  | missing _ now hc _ => exact hcalled hc
  | failed _ now hc _ => exact hcalled hc

/-! ## What is written -/

/-- **Naming** a cluster records its identifier. -/
theorem made_of_naming {r : Except Error Cluster} (h : Naming c es r) :
    ∀ e ∈ es, Made (· = .setExternalName c.anyName c.externalName) noDatabase noRecord e := by
  have hop {es : Trace} {r : Except Error Cluster}
      (h : Accessed (Kube.persistExternalName c) es r) :
      ∀ e ∈ es, Made (· = .setExternalName c.anyName c.externalName) noDatabase noRecord e := by
    obtain ⟨a, ha, _⟩ := accessed_call.1 h
    exact made_of_asked ha
  unfold Naming at h
  generalize nameAttempts = n at h
  induction h with
  | succeeded h => exact hop h
  | failed _ h => exact hop h
  | again h _ ih =>
    exact List.forall_mem_append.2 ⟨hop h, List.forall_mem_cons.2 ⟨.pause _, ih⟩⟩

theorem within_of_naming {r : Except Error Cluster} (h : Naming c es r) : Within [.name] es := by
  refine fun e he => (made_of_naming h e he).imp ?_ (fun _ => False.elim) fun _ => False.elim
  rintro _ rfl
  exact List.mem_singleton_self _

theorem within_of_named (h : Named c es) : Within [.name] es := by
  cases h with
  | unbound _ => exact within_nil _
  | recorded _ hn => exact within_of_naming hn

/-- **Recording a status** writes the status of the cluster. -/
theorem within_of_recordStatus {r : Except Error Unit} (h : Accessed (Kube.recordStatus c) es r) :
    Within [.status] es := by
  cases accessed_recordStatus.1 h with
  | unset _ => exact within_nil _
  | asked _ ha => exact within_of_asked ha

/-- **Publishing** applies a secret. -/
theorem within_of_publish {details : ConnectionDetails} {r : Except Error Unit}
    (h : Accessed (Kube.publish c details) es r) : Within [.publish] es := by
  cases accessed_publish.1 h with
  | nothing _ => exact within_nil _
  | unasked _ _ => exact within_nil _
  | asked _ _ ha => exact within_of_asked ha

/-! ## The work on a cluster -/

theorem within_of_presenting {creation : Except Error ConnectionDetails} {r : Except Error Action}
    (h : Presenting creation c es r) : Within [.status, .publish] es := by
  cases h with
  | unrecorded hs => exact (within_of_recordStatus hs).mono (by decide)
  | uncreated hs _ => exact (within_of_recordStatus hs).mono (by decide)
  | unpublished hs _ hp => exact (within_of_recordStatus hs).append (within_of_publish hp)
  | presented hs _ hp => exact (within_of_recordStatus hs).append (within_of_publish hp)

theorem within_of_introducing {r : Except Error Action} (h : Introducing session c es r) :
    Within [.create, .count, .fetch, .name, .status, .publish] es := by
  cases h with
  | unnamed hc _ hn => exact ((within_of_create hc).append (within_of_naming hn)).mono (by decide)
  | named hc hn hp =>
    exact (within_of_create hc).append ((within_of_named hn).append (within_of_presenting hp))

theorem within_of_maintaining {interval : Nat} {name : String} {r : Except Error Action}
    (h : Maintaining interval name c es r) : Within [.status, .gauge] es := by
  cases h with
  | unrecorded hs => exact (within_of_recordStatus hs).mono (by decide)
  | maintained hs =>
    exact (within_of_recordStatus hs).append
      ((within_nil [.gauge]).record .gauge rfl (by decide))

/-- **Applying** edits no finalizers and deletes no database. -/
theorem within_of_applying {interval : Nat} {r : Except Error Action}
    (h : Applying apiUrl interval c es r) : Within
      [.read, .fetch, .count, .store, .create, .name, .status, .publish, .gauge] es := by
  cases h with
  | unconnected hc => exact (within_of_connect hc).mono (by decide)
  | unobserved hc ho =>
    exact ((within_of_connect hc).append (within_of_observe ho)).mono (by decide)
  | absent hc ho hi =>
    exact ((within_of_connect hc).append
      ((within_of_observe ho).append (within_of_introducing hi))).mono (by decide)
  | present hc ho hm =>
    exact ((within_of_connect hc).append
      ((within_of_observe ho).append (within_of_maintaining hm))).mono (by decide)

/-- **Cleaning** edits no finalizers, stores no cluster and creates no database. -/
theorem within_of_cleaning {r : Except Error Action} (h : Cleaning apiUrl c es r) :
    Within [.gauge, .read, .delete, .count, .status] es := by
  have hforgotten {es : Trace} (h : Within [.read, .delete, .count, .status] es) :
      Within [.gauge, .read, .delete, .count, .status]
        (.record (.forgotten c.anyName) :: es) :=
    (h.mono (by decide)).record .gauge rfl (by decide)
  cases h with
  | orphaned _ => exact hforgotten (within_nil _)
  | unconnected _ hc => exact hforgotten ((within_of_connect hc).mono (by decide))
  | undeleted _ hc hd =>
    exact hforgotten (((within_of_connect hc).append (within_of_delete hd)).mono (by decide))
  | deleted _ hc hd hs =>
    exact hforgotten ((within_of_connect hc).append
      ((within_of_delete hd).append (within_of_recordStatus hs)))

/-! ## What is not exchanged -/

/-- A request to the remote API is of one of the kinds. -/
theorem Within.exists_kind {request : DatabaseRequest} {outcome : Http.Outcome}
    (h : Within kinds es) (he : Event.database request outcome ∈ es) :
    ∃ kind ∈ kinds, Kind.ofMethod? request.method = some kind := by
  cases h _ he with
  | @database call hd _ _ hr _ =>
    refine ⟨_, hd, ?_⟩
    rw [method_of_request hr]
    cases call <;> rfl

/-- What is asked with a method is of one of the kinds. -/
theorem Within.kind_mem {request : DatabaseRequest} {outcome : Http.Outcome} {method : Http.Method}
    {kind : Kind} (h : Within kinds es) (he : Event.database request outcome ∈ es)
    (hm : request.method = method) (hk : Kind.ofMethod? method = some kind) : kind ∈ kinds := by
  obtain ⟨kind', hmem, hkind⟩ := h.exists_kind he
  rw [hm, hk] at hkind
  exact Option.some.inj hkind ▸ hmem

/-- No request goes to the remote API where nothing is fetched, created or deleted. -/
theorem Within.database_not_mem {request : DatabaseRequest} {outcome : Http.Outcome}
    (h : Within kinds es) (hk : .fetch ∉ kinds ∧ .create ∉ kinds ∧ .delete ∉ kinds) :
    Event.database request outcome ∉ es := by
  intro he
  obtain ⟨kind, hmem, hkind⟩ := h.exists_kind he
  cases hm : request.method with
  | get => exact hk.1 (h.kind_mem he hm rfl)
  | post => exact hk.2.1 (h.kind_mem he hm rfl)
  | delete => exact hk.2.2 (h.kind_mem he hm rfl)
  | put => rw [hm] at hkind; cases hkind
  | patch => rw [hm] at hkind; cases hkind

/-- Only an edit of the finalizers has their type. -/
theorem Within.contentType_ne {request : Kube.Request} {outcome : Http.Outcome}
    (h : Within kinds es) (hk : .edit ∉ kinds) (he : Event.kube request outcome ∈ es) :
    request.contentType ≠ some "application/json-patch+json" := by
  cases h _ he with
  | @kube call hc _ hr _ =>
    rw [Kube.Call.contentType_of_request hr]
    cases call with
    | editFinalizers _ _ => exact absurd hc hk
    | _ => simp [Kube.Call.typeOf]

end ClusterKeeper.Exchange
