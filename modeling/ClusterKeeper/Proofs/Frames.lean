import ClusterKeeper.Proofs.Conditions
import ClusterKeeper.Proofs.Unsaved

/-!
# What the verbs touch

A verb gets a cluster to work on and gives it back changed, also when it fails. Each verb has a part
of the cluster that it may change, and leaves the rest as it is whatever it is answered.

* `Condition.Renewed`, `ReadyOnly`: no more than the Ready condition has changed.
* `Making`, `left_by_delete`: the cluster that creating and deleting leave.
* `frame_of_observe`, `frame_of_create`, `frame_of_delete`: the part that each verb may change.
* `touched_by_verbs`: all of them.
-/

namespace ClusterKeeper

/-! ## The Ready condition alone -/

namespace Condition

/-- **The condition of a type is renewed**: the first of the type gives way to another of the type,
or one is appended where there is none. All others stay where they are. -/
inductive Renewed (ty : String) : List Condition → List Condition → Prop
  | kept (cs : List Condition) : Renewed ty cs cs
  | replaced (before behind : List Condition) {d d' : Condition}
      (hbefore : ∀ e ∈ before, e.type ≠ ty) (hd : d.type = ty) (hd' : d'.type = ty) :
      Renewed ty (before ++ d :: behind) (before ++ d' :: behind)
  | added {cs : List Condition} {d' : Condition} (hnone : ∀ e ∈ cs, e.type ≠ ty)
      (hd' : d'.type = ty) : Renewed ty cs (cs ++ [d'])

variable {ty : String} {cs cs' : List Condition} {e : Condition}

theorem Renewed.cons (he : e.type ≠ ty) (h : Renewed ty cs cs') :
    Renewed ty (e :: cs) (e :: cs') := by
  cases h with
  | kept => exact .kept _
  | replaced before behind hbefore hd hd' =>
    exact .replaced (e :: before) behind (List.forall_mem_cons.2 ⟨he, hbefore⟩) hd hd'
  | added hnone hd' => exact .added (List.forall_mem_cons.2 ⟨he, hnone⟩) hd'

/-- **A condition that is set** renews the condition of its type. -/
theorem renewed_put (c : Condition) (cs : List Condition) : Renewed c.type cs (c.put cs) := by
  induction cs with
  | nil => exact .added (List.forall_mem_nil _) rfl
  | cons e cs ih =>
    rw [put]
    by_cases he : e.type = c.type
    · rw [if_pos he]
      split
      · exact .replaced [] cs (List.forall_mem_nil _) he rfl
      · exact .kept _
    · rw [if_neg he]
      exact ih.cons he

end Condition

/-- What the status says about the database, nothing if it is unset. -/
def Cluster.atProvider (c : Cluster) : Observation := (c.status.getD {}).atProvider

/-- **No more than the Ready condition** has changed. -/
structure ReadyOnly (c c' : Cluster) : Prop where
  metadata : c'.metadata = c.metadata
  spec : c'.spec = c.spec
  atProvider : c'.atProvider = c.atProvider
  conditions : Condition.Renewed Condition.readyType c.conditions c'.conditions

theorem readyOnly_setReady (c : Cluster) (r : Reason) (now : Instant) :
    ReadyOnly c (c.setReady r now) where
  metadata := rfl
  spec := rfl
  atProvider := rfl
  conditions := Condition.renewed_put (r.condition now) c.conditions

theorem readyOnly_settleStatus (c : Cluster) (now : Instant) :
    ReadyOnly c (c.settleStatus now) := by
  unfold Cluster.settleStatus
  split
  · exact readyOnly_setReady c _ now
  · exact ⟨rfl, rfl, rfl, .kept _⟩

/-- **Metadata bind to an identifier**: they are `m` with the annotation that holds it. -/
structure Metadata.Binds (m : Metadata) (id : String) (m' : Metadata) : Prop where
  rest : { m' with annotations := m.annotations } = m
  name : m'.annotations.bind (·.get? Cluster.externalNameKey) = some id
  others : ∀ key ≠ Cluster.externalNameKey,
    m'.annotations.bind (·.get? key) = m.annotations.bind (·.get? key)

theorem binds_setExternalName (c : Cluster) (id : String) :
    c.metadata.Binds id (c.setExternalName id).metadata where
  rest := rfl
  name := Dict.get?_insert_self _ _ _
  others key hkey := by
    have hkept : (c.setExternalName id).metadata.annotations.bind (·.get? key) =
        (c.metadata.annotations.getD .empty).get? key := Dict.get?_insert_of_ne _ _ hkey
    rw [hkept]
    cases c.metadata.annotations with
    | none => rfl
    | some annotations => rfl

namespace Lifecycle

open Prog

variable {session : Session} {c c' : Cluster} {es : List Outside.Event}

/-! ## What creating and deleting leave -/

/-- **Creating** sets that the database is being created, and binds the cluster to the one that
comes with the answer, if one does. -/
inductive Making (session : Session) (c : Cluster) :
    List Outside.Event → Except Error ConnectionDetails × Cluster → Prop
  | failed {es : List Outside.Event} (e : Error) (now : Instant) :
      Making session c es (.error e, c.setReady .creating now)
  | bound {es : List Outside.Event} {db : Database}
      (he : creation session c (.ok (some db)) ∈ es) (details : ConnectionDetails)
      (now : Instant) :
      Making session c es (.ok details, (c.setReady .creating now).setExternalName db.id)

theorem Making.of_run {p : Except Error ConnectionDetails × Cluster}
    (h : (create session c).Run es p) : Making session c es p := by
  unfold create at h
  obtain ⟨now, es₁, rfl, h₁⟩ := run_query_bind.1 h
  simp only at h₁
  split at h₁
  · obtain ⟨rfl, rfl⟩ := run_done_iff.1 h₁
    exact .failed _ now
  · obtain ⟨answer, es₂, rfl, h₂⟩ := run_query_bind.1 h₁
    match answer with
    | .error f =>
      obtain ⟨_, es₃, rfl, h₃⟩ := run_query_bind.1 h₂
      obtain ⟨rfl, rfl⟩ := run_done_iff.1 h₃
      exact .failed _ now
    | .ok none =>
      -- a database may have been created, but no identifier came back to bind to
      obtain ⟨_, es₃, rfl, h₃⟩ := run_query_bind.1 h₂
      obtain ⟨rfl, rfl⟩ := run_done_iff.1 h₃
      exact .failed _ now
    | .ok (some db) =>
      obtain ⟨_, es₃, rfl, h₃⟩ := run_query_bind.1 h₂
      have hmem : creation session c (.ok (some db)) ∈ told now ::
          creation session c (.ok (some db)) :: tally "create" true :: es₃ :=
        List.mem_cons_of_mem _ List.mem_cons_self
      split at h₃
      · -- whatever comes of the details, the cluster is bound
        obtain ⟨es₄, details, es₅, _, h₄, rfl⟩ := run_bind_iff.1 h₃
        obtain ⟨rfl, rfl⟩ := run_done_iff.1 h₄
        exact .bound hmem details now
      · obtain ⟨rfl, rfl⟩ := run_done_iff.1 h₃
        exact .bound hmem _ now

/-- **Deleting** sets that the database is being deleted, whatever comes of it. -/
theorem left_by_delete (session : Session) (c : Cluster) :
    (delete session c).Ensures fun p => ∃ now, p.2 = c.setReady .deleting now := by
  unfold delete
  refine ensures_query_bind fun now => ?_
  simp only
  split
  · exact ensures_done ⟨now, rfl⟩
  · refine ensures_query_bind fun answer => ?_
    cases answer with
    | ok u => exact ensures_query_bind fun _ => ensures_done ⟨now, rfl⟩
    | error f =>
      refine ensures_query_bind fun _ => ?_
      split
      · exact ensures_done ⟨now, rfl⟩
      · exact ensures_done ⟨now, rfl⟩

/-! ## The part of each verb -/

/-- **What observing may change**: of a database that was fetched it takes unset parameters, the
metadata of the cluster that was stored for them, and once all is done the observation. -/
structure ObserveFrame (session : Session) (c : Cluster) (es : List Outside.Event)
    (r : Except Error Sighting) (c' : Cluster) : Prop where
  untouched : (c.externalName = "" ∨ ∃ f, fetch session c.externalName (.error f) ∈ es) → c' = c
  failed : ∀ e, r = .error e → c'.metadata = c.metadata ∧ c'.status = c.status
  spec : c'.spec = c.spec ∨ ∃ db, fetch session c.externalName (.ok db) ∈ es ∧
    c'.spec = (c.lateInitialize db).spec
  metadata : c'.metadata = c.metadata ∨ ∃ db kept, offer (c.lateInitialize db) (.ok kept) ∈ es ∧
    c'.metadata = kept.metadata
  atProvider : c'.atProvider = c.atProvider ∨ ∃ db, fetch session c.externalName (.ok db) ∈ es ∧
    r = .ok { present := true, upToDate := true } ∧ c'.atProvider = .ofDatabase db
  conditions : Condition.Renewed Condition.readyType c.conditions c'.conditions

theorem observe_of_unbound (session : Session) (h : c.externalName = "") :
    observe session c = .done (.ok {}, c) := if_pos h

theorem frame_of_observe {r : Except Error Sighting} (h : (observe session c).Run es (r, c')) :
    ObserveFrame session c es r c' := by
  have hunbound (hn : c.externalName = "") : c' = c := by
    rw [observe_of_unbound session hn] at h
    exact congrArg Prod.snd (run_done_iff.1 h).2
  have hlooking := Looking.of_run h
  -- the result is a pair in the relation, so it is taken apart only once the case is known
  generalize hp : (r, c') = p at hlooking
  cases hlooking with
  | unbound _ =>
    cases hp
    exact ⟨fun _ => rfl, fun _ _ => ⟨rfl, rfl⟩, .inl rfl, .inl rfl, .inl rfl, .kept _⟩
  | unseen f _ =>
    cases hp
    exact ⟨fun _ => rfl, fun _ _ => ⟨rfl, rfl⟩, .inl rfl, .inl rfl, .inl rfl, .kept _⟩
  | @unchanged db _ now =>
    cases hp
    have hready := readyOnly_settleStatus (c.observed db) now
    refine ⟨?_, nofun, .inl hready.spec, .inl hready.metadata,
      .inr ⟨db, List.mem_cons_self, rfl, hready.atProvider⟩, hready.conditions⟩
    rintro (hn | ⟨f, hf⟩)
    · exact hunbound hn
    · simp at hf
  | @refused db _ f e =>
    -- the parameters were filled in before the store refused them, and stay so
    cases hp
    refine ⟨?_, fun _ _ => ⟨rfl, rfl⟩, .inr ⟨db, List.mem_cons_self, rfl⟩, .inl rfl, .inl rfl,
      .kept _⟩
    rintro (hn | ⟨f, hf⟩)
    · exact hunbound hn
    · simp at hf
  | @accepted db _ kept now =>
    cases hp
    have hready := readyOnly_settleStatus
      (({ c.lateInitialize db with metadata := kept.metadata }).observed db) now
    have hoffer : offer (c.lateInitialize db) (.ok kept) ∈
        [fetch session c.externalName (.ok db), tally "get" true,
          offer (c.lateInitialize db) (.ok kept), told now] := by simp
    refine ⟨?_, nofun, .inr ⟨db, List.mem_cons_self, hready.spec⟩,
      .inr ⟨db, kept, hoffer, hready.metadata⟩,
      .inr ⟨db, List.mem_cons_self, rfl, hready.atProvider⟩, hready.conditions⟩
    rintro (hn | ⟨f, hf⟩)
    · exact hunbound hn
    · simp at hf

/-- **What creating may change**: the Ready condition, and with a database that came the binding. -/
structure CreateFrame (session : Session) (c : Cluster) (es : List Outside.Event)
    (r : Except Error ConnectionDetails) (c' : Cluster) : Prop where
  spec : c'.spec = c.spec
  atProvider : c'.atProvider = c.atProvider
  conditions : Condition.Renewed Condition.readyType c.conditions c'.conditions
  failed : ∀ e, r = .error e → c'.metadata = c.metadata
  bound : ∀ details, r = .ok details → ∃ db, creation session c (.ok (some db)) ∈ es ∧
    c.metadata.Binds db.id c'.metadata

theorem frame_of_create {r : Except Error ConnectionDetails}
    (h : (create session c).Run es (r, c')) : CreateFrame session c es r c' := by
  have hmaking := Making.of_run h
  generalize hp : (r, c') = p at hmaking
  cases hmaking with
  | failed e now =>
    cases hp
    have hready := readyOnly_setReady c .creating now
    exact ⟨rfl, rfl, hready.conditions, fun _ _ => rfl, nofun⟩
  | @bound db he details now =>
    cases hp
    have hready := readyOnly_setReady c .creating now
    exact ⟨rfl, rfl, hready.conditions, nofun,
      fun _ _ => ⟨db, he, binds_setExternalName (c.setReady .creating now) db.id⟩⟩

/-- **Deleting changes the Ready condition** and nothing else. -/
theorem frame_of_delete {r : Except Error Unit} (h : (delete session c).Run es (r, c')) :
    ReadyOnly c c' := by
  obtain ⟨now, hleft⟩ := left_by_delete session c es _ h
  obtain rfl : c' = c.setReady .deleting now := hleft
  exact readyOnly_setReady c .deleting now

/-- **The verbs keep to their parts** of a cluster, whatever they are answered. Observing leaves a
cluster alone that is not bound, that has no database or whose database cannot be fetched, and only
when it ends well with a database does it record one. Creating never changes the specification and
what is recorded of a database; of the metadata it changes only the binding, and that only when it
ends well. Deleting changes the Ready condition alone, and updating nothing. No verb changes a
condition of another type. -/
theorem touched_by_verbs (session : Session) (c c' : Cluster) (es : List Outside.Event) :
    (∀ r, (observe session c).Run es (r, c') → ObserveFrame session c es r c') ∧
    (∀ r, (create session c).Run es (r, c') → CreateFrame session c es r c') ∧
    (∀ r, (delete session c).Run es (r, c') → ReadyOnly c c') ∧
    ∀ r, (update session c).Run es (r, c') → c' = c :=
  ⟨fun _ => frame_of_observe, fun _ => frame_of_create, fun _ => frame_of_delete,
    fun _ h => congrArg Prod.snd (run_done_iff.1 h).2⟩

namespace Sample

/-- A bound cluster with a condition that another has set. -/
def shared : Cluster :=
  { Exchange.Sample.cluster "a" with
    status := some { conditions := [⟨"Synced", "True", Exchange.Sample.now, none, none⟩] } }

/-- A remote API that does nothing but create databases. -/
def onlyCreates : (q : Outside.Question) → Outside.Answer q
  | .database _ (.get _) => .error (.api 503 "")
  | .database _ (.delete _) => .error (.api 503 "")
  | q => answers q

/-- A verb on the cluster. -/
def work {α : Type} (verb : Session → Cluster → Work (Except Error α × Cluster)) :
    List Outside.Event × (Except Error α × Cluster) :=
  Prog.play (fun _ => onlyCreates) 0 (verb opened shared)

theorem run_work {α : Type} (verb : Session → Cluster → Work (Except Error α × Cluster)) :
    (verb opened shared).Run (work verb).1 ((work verb).2.1, (work verb).2.2) :=
  Prog.run_play (I := Outside.interface) (fun _ => onlyCreates) 0 (verb opened shared)

end Sample

open Sample in
/-- The database cannot be fetched and not be deleted, and another one is created. -/
theorem touched_by_verbs_failing :
    (work observe).2.1.isOk = false ∧ (work observe).2.2 = shared ∧
    (work delete).2.1.isOk = false ∧ ReadyOnly shared (work delete).2.2 ∧
    (work create).2.1.isOk = true ∧ (∃ id, shared.metadata.Binds id (work create).2.2.metadata) ∧
    (work update).2.2 = shared := by
  have hfetch : fetch opened shared.externalName (.error (.api 503 "")) ∈ (work observe).1 :=
    List.mem_cons_self
  have hobserve := (touched_by_verbs opened shared _ _).1 _ (run_work observe)
  have hcreate := (touched_by_verbs opened shared _ _).2.1 _ (run_work create)
  have hcreated : (work create).2.1.isOk = true := by decide +kernel
  obtain ⟨details, hok⟩ := exists_of_isOk hcreated
  obtain ⟨db, -, hbinds⟩ := hcreate.bound details hok
  exact ⟨by decide +kernel, hobserve.untouched (.inr ⟨_, hfetch⟩), by decide +kernel,
    (touched_by_verbs opened shared _ _).2.2.1 _ (run_work delete), hcreated, ⟨db.id, hbinds⟩,
    (touched_by_verbs opened shared _ _).2.2.2 _ (run_work update)⟩

end Lifecycle

end ClusterKeeper
