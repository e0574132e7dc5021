import ClusterKeeper.Proofs.History
import ClusterKeeper.Proofs.Registry

/-!
# Calls and counts

The verbs count the calls of the remote API that they make, each by its operation and by whether it
was answered with what it asked for. One call escapes: the fetch for the details of a new database.

* `call?`, `counted?`: a call that is made, and one that is counted.
* `asking_of_observe`, `asking_of_create`, `asking_of_delete`: what a verb asks.
* `Turn.calls_eq`: in a turn of a verb the calls are those that are counted, and then the fetch.
* `calls_counted`: so are they over any sequence of turns, in every counter.
-/

namespace ClusterKeeper

open Metrics Prog

/-- What is asked of the world, with its answer. -/
abbrev Outside.Event : Type := Outside.interface.Event

/-- The operation of a call. -/
def DatabaseCall.operation : DatabaseCall → String
  | .get _ => "get"
  | .create _ => "create"
  | .delete _ => "delete"

/-- Whether an answer delivers what the call asked for. To a fetch and to a deletion it is an answer
that there is no such database, and no answer to a creation lacks one. -/
def DatabaseCall.delivered : (call : DatabaseCall) → Except CallFailure call.Answer → Bool
  | .get _, .ok _ => true
  | .get _, .error f => f.isNotFound
  | .create _, .ok db? => Option.isSome db?
  | .create _, .error _ => false
  | .delete _, .ok _ => true
  | .delete _, .error f => f.isNotFound

namespace Lifecycle

/-- A call of the remote API: its operation, and whether its answer delivers. -/
def call? : Outside.Event → Option (String × Bool)
  | ⟨.database _ call, answer⟩ => some (call.operation, call.delivered answer)
  | _ => none

/-- Something that the registry is told. -/
def recorded? : Outside.Event → Option Metrics.Event
  | ⟨.record event, _⟩ => some event
  | _ => none

/-- A call of the remote API that is counted. -/
def counted? (e : Outside.Event) : Option (String × Bool) :=
  (recorded? e).bind Metrics.Event.counts?

/-- No call is made and none counted. -/
def Silent (es : List Outside.Event) : Prop := ∀ e ∈ es, call? e = none ∧ counted? e = none

variable {α β : Type} {session : Session} {c : Cluster} {es : List Outside.Event}

/-- A fetch and its answer. -/
abbrev fetch (session : Session) (id : String) (answer : Except CallFailure Database) :
    Outside.Event := ⟨.database session (.get id), answer⟩

/-- A creation and its answer. -/
abbrev creation (session : Session) (c : Cluster) (answer : Except CallFailure (Option Database)) :
    Outside.Event :=
  ⟨.database session (.create (c.spec.forProvider.createRequest (databaseName c))), answer⟩

/-- A deletion and its answer. -/
abbrev deletion (session : Session) (id : String) (answer : Except CallFailure Unit) :
    Outside.Event := ⟨.database session (.delete id), answer⟩

/-- The time that is told. -/
abbrev told (now : Instant) : Outside.Event := ⟨.clock, now⟩

/-- A call is counted. -/
abbrev tally (operation : String) (success : Bool) : Outside.Event :=
  ⟨.record (.externalCall operation success), ()⟩

/-! ## What the verbs ask -/

theorem Silent.filterMap_call? (h : Silent es) : es.filterMap call? = [] :=
  List.filterMap_eq_nil_iff.2 fun e he => (h e he).1

theorem Silent.filterMap_counted? (h : Silent es) : es.filterMap counted? = [] :=
  List.filterMap_eq_nil_iff.2 fun e he => (h e he).2

/-- Work that asks one thing first. -/
theorem run_query_bind {q : Outside.Question} {f : Outside.Answer q → Work β} {b : β} :
    (Prog.query (I := Outside.interface) q >>= f).Run es b ↔
      ∃ answer es', es = ⟨q, answer⟩ :: es' ∧ (f answer).Run es' b :=
  run_ask_iff

/-- Work on the object store alone is silent. -/
theorem silent_of_ofAccess {access : Kube.Access α} {r : Except Error α}
    (h : (Work.ofAccess access).Run es r) : Silent es := by
  unfold Work.ofAccess at h
  induction access generalizing es with
  | done a =>
    obtain ⟨rfl, _⟩ := run_done_iff.1 h
    exact List.forall_mem_nil _
  | ask call next ih =>
    obtain ⟨answer, es', rfl, h'⟩ := run_ask_iff.1 h
    exact List.forall_mem_cons.2 ⟨⟨rfl, rfl⟩, ih answer h'⟩

/-- **Observing** fetches the database that the cluster is bound to and counts the fetch. -/
inductive ObserveAsks (session : Session) (c : Cluster) : List Outside.Event → Prop
  | unbound (h : c.externalName = "") : ObserveAsks session c []
  | fetched (h : c.externalName ≠ "") (answer : Except CallFailure Database)
      {es : List Outside.Event} (hs : Silent es) :
      ObserveAsks session c (fetch session c.externalName answer ::
        tally "get" (DatabaseCall.delivered (.get c.externalName) answer) :: es)

/-- **Creating** asks for a database and counts that. A new database without a connection is fetched
for its details, if the cluster wants them, and that is not counted. -/
inductive CreateAsks (session : Session) (c : Cluster) : List Outside.Event → Prop
  | unnamed (now : Instant) : CreateAsks session c [told now]
  | refused (now : Instant) {answer : Except CallFailure (Option Database)}
      (h : ∀ db, answer ≠ .ok (some db)) :
      CreateAsks session c [told now, creation session c answer, tally "create" false]
  | created (now : Instant) {db : Database}
      (h : c.spec.connectionSecretRef = none ∨ db.connection.isSome = true) :
      CreateAsks session c [told now, creation session c (.ok (some db)), tally "create" true]
  | fetched (now : Instant) {db : Database} (hs : c.spec.connectionSecretRef.isSome = true)
      (hd : db.connection = none) (answer : Except CallFailure Database) :
      CreateAsks session c [told now, creation session c (.ok (some db)), tally "create" true,
        fetch session db.id answer]

/-- **Deleting** asks to delete the database that the cluster is bound to and counts that. -/
inductive DeleteAsks (session : Session) (c : Cluster) : List Outside.Event → Prop
  | unbound (h : c.externalName = "") (now : Instant) : DeleteAsks session c [told now]
  | deleted (h : c.externalName ≠ "") (now : Instant) (answer : Except CallFailure Unit) :
      DeleteAsks session c [told now, deletion session c.externalName answer,
        tally "delete" (DatabaseCall.delivered (.delete c.externalName) answer)]

theorem silent_of_adopt {db : Database} {p : Except Error Sighting × Cluster}
    (h : (adopt c db).Run es p) : Silent es := by
  have hsettle {c : Cluster} {es : List Outside.Event} {p : Except Error Sighting × Cluster}
      (h : (settle c db).Run es p) : Silent es := by
    obtain ⟨now, es', rfl, h'⟩ := run_query_bind.1 h
    obtain ⟨rfl, _⟩ := run_done_iff.1 h'
    exact List.forall_mem_singleton.2 ⟨rfl, rfl⟩
  unfold adopt at h
  simp only at h
  split at h
  · exact hsettle h
  · obtain ⟨es₁, stored, es₂, hs, h', rfl⟩ := run_bind_iff.1 h
    refine List.forall_mem_append.2 ⟨silent_of_ofAccess hs, ?_⟩
    cases stored with
    | error e =>
      obtain ⟨rfl, _⟩ := run_done_iff.1 h'
      exact List.forall_mem_nil _
    | ok kept => exact hsettle h'

theorem asking_of_observe {p : Except Error Sighting × Cluster}
    (h : (observe session c).Run es p) : ObserveAsks session c es := by
  unfold observe at h
  split at h
  · rename_i hn
    obtain ⟨rfl, _⟩ := run_done_iff.1 h
    exact .unbound hn
  · rename_i hn
    obtain ⟨answer, es₁, rfl, h₁⟩ := run_query_bind.1 h
    cases answer with
    | ok db =>
      obtain ⟨_, es₂, rfl, h₂⟩ := run_query_bind.1 h₁
      exact .fetched hn (.ok db) (silent_of_adopt h₂)
    | error f =>
      obtain ⟨_, es₂, rfl, h₂⟩ := run_query_bind.1 h₁
      have hlast : es₂ = [] := by
        split at h₂
        · exact (run_done_iff.1 h₂).1
        · exact (run_done_iff.1 h₂).1
      subst hlast
      exact .fetched hn (.error f) (List.forall_mem_nil _)

/-- Details are fetched for a database that came without a connection. -/
theorem asked_of_freshDetails {db : Database} {details : ConnectionDetails}
    (h : (freshDetails session db).Run es details) :
    (db.connection.isSome = true ∧ es = []) ∨
      (db.connection = none ∧ ∃ answer, es = [fetch session db.id answer]) := by
  unfold freshDetails at h
  split at h
  · rename_i hc
    exact Or.inl ⟨hc, (run_done_iff.1 h).1⟩
  · rename_i hc
    obtain ⟨answer, es', rfl, h'⟩ := run_query_bind.1 h
    have hlast : es' = [] := by
      cases answer with
      | ok fetched => exact (run_done_iff.1 h').1
      | error f => exact (run_done_iff.1 h').1
    subst hlast
    exact Or.inr ⟨Option.not_isSome_iff_eq_none.1 hc, answer, rfl⟩

theorem asking_of_create {p : Except Error ConnectionDetails × Cluster}
    (h : (create session c).Run es p) : CreateAsks session c es := by
  unfold create at h
  obtain ⟨now, es₁, rfl, h₁⟩ := run_query_bind.1 h
  simp only at h₁
  split at h₁
  · obtain ⟨rfl, _⟩ := run_done_iff.1 h₁
    exact .unnamed now
  · obtain ⟨answer, es₂, rfl, h₂⟩ := run_query_bind.1 h₁
    match answer with
    | .error f =>
      obtain ⟨_, es₃, rfl, h₃⟩ := run_query_bind.1 h₂
      obtain ⟨rfl, _⟩ := run_done_iff.1 h₃
      exact .refused (c := c) now fun db hdb => by cases hdb
    | .ok none =>
      obtain ⟨_, es₃, rfl, h₃⟩ := run_query_bind.1 h₂
      obtain ⟨rfl, _⟩ := run_done_iff.1 h₃
      exact .refused (c := c) now fun db hdb => by cases hdb
    | .ok (some db) =>
      obtain ⟨_, es₃, rfl, h₃⟩ := run_query_bind.1 h₂
      split at h₃
      · rename_i hs
        obtain ⟨es₄, details, es₅, hd, h₄, rfl⟩ := run_bind_iff.1 h₃
        obtain ⟨rfl, _⟩ := run_done_iff.1 h₄
        rcases asked_of_freshDetails hd with ⟨hc, rfl⟩ | ⟨hc, answer, rfl⟩
        · exact .created (c := c) now (Or.inr hc)
        · exact .fetched (c := c) now hs hc answer
      · rename_i hs
        obtain ⟨rfl, _⟩ := run_done_iff.1 h₃
        exact .created (c := c) now (Or.inl (Option.not_isSome_iff_eq_none.1 hs))

theorem asking_of_delete {p : Except Error Unit × Cluster} (h : (delete session c).Run es p) :
    DeleteAsks session c es := by
  unfold delete at h
  obtain ⟨now, es₁, rfl, h₁⟩ := run_query_bind.1 h
  simp only at h₁
  split at h₁
  · rename_i hn
    obtain ⟨rfl, _⟩ := run_done_iff.1 h₁
    exact .unbound (c := c) hn now
  · rename_i hn
    obtain ⟨answer, es₂, rfl, h₂⟩ := run_query_bind.1 h₁
    cases answer with
    | ok u =>
      obtain ⟨_, es₃, rfl, h₃⟩ := run_query_bind.1 h₂
      obtain ⟨rfl, _⟩ := run_done_iff.1 h₃
      exact .deleted (c := c) hn now (.ok u)
    | error f =>
      obtain ⟨_, es₃, rfl, h₃⟩ := run_query_bind.1 h₂
      have hlast : es₃ = [] := by
        split at h₃
        · exact (run_done_iff.1 h₃).1
        · exact (run_done_iff.1 h₃).1
      subst hlast
      exact .deleted (c := c) hn now (.error f)

/-! ## Turns of the verbs -/

/-- The verbs. -/
inductive Verb where
  | observe
  | create
  | update
  | delete
  deriving DecidableEq

/-- A verb that works on a cluster can ask `es` and be answered so. -/
def Verb.Asks (session : Session) (c : Cluster) (es : List Outside.Event) : Verb → Prop
  | .observe => ∃ p, (Lifecycle.observe session c).Run es p
  | .create => ∃ p, (Lifecycle.create session c).Run es p
  | .update => ∃ p, (Lifecycle.update session c).Run es p
  | .delete => ∃ p, (Lifecycle.delete session c).Run es p

/-- A turn of a verb, with what it asked and was answered. -/
structure Turn where
  verb : Verb
  session : Session
  cluster : Cluster
  asked : List Outside.Event
  asks : verb.Asks session cluster asked

namespace Turn

/-- The calls that are made. -/
def calls (t : Turn) : List (String × Bool) := t.asked.filterMap call?

/-- The calls that are counted. -/
def counted (t : Turn) : List (String × Bool) := t.asked.filterMap counted?

/-- The fetches that a creation makes. -/
def fetches (t : Turn) : List (String × Bool) :=
  if t.verb = .create then t.calls.filter fun p => p.1 = "get" else []

/-- **A creation makes a fetch**: the cluster wants connection details, and the new database came
without a connection. -/
def Fetches (t : Turn) : Prop :=
  t.verb = .create ∧ t.cluster.spec.connectionSecretRef.isSome = true ∧
    ∃ db, creation t.session t.cluster (.ok (some db)) ∈ t.asked ∧ db.connection = none

/-- **In a turn** the calls are those that are counted, and then the fetch of a creation. -/
theorem calls_eq (t : Turn) : t.calls = t.counted ++ t.fetches := by
  obtain ⟨verb, session, c, es, h⟩ := t
  unfold calls counted fetches
  cases verb with
  | observe =>
    obtain ⟨p, h⟩ := h
    rw [if_neg nofun, List.append_nil]
    cases asking_of_observe h with
    | unbound _ => rfl
    | fetched _ answer hs =>
      have hcalls : call? (fetch session c.externalName answer) =
          counted? (tally "get" (DatabaseCall.delivered (.get c.externalName) answer)) := rfl
      have hcounted : counted? (fetch session c.externalName answer) = none := rfl
      have htally : call? (tally "get" (DatabaseCall.delivered (.get c.externalName) answer)) =
          none := rfl
      rw [List.filterMap_cons, List.filterMap_cons, htally, hs.filterMap_call?, List.filterMap_cons,
        hcounted, List.filterMap_cons, hs.filterMap_counted?, hcalls]
  | create =>
    obtain ⟨p, h⟩ := h
    rw [if_pos rfl]
    cases asking_of_create h with
    | unnamed now => rfl
    | @refused now answer hn =>
      match answer, hn with
      | .error f, _ => rfl
      | .ok none, _ => rfl
      | .ok (some db), hn => exact absurd rfl (hn db)
    | created now _ => rfl
    | fetched now _ _ answer => rfl
  | update =>
    obtain ⟨p, h⟩ := h
    obtain ⟨rfl, _⟩ := run_done_iff.1 h
    rfl
  | delete =>
    obtain ⟨p, h⟩ := h
    rw [if_neg nofun, List.append_nil]
    cases asking_of_delete h with
    | unbound _ now => rfl
    | deleted _ now answer => rfl

theorem fetches_ne_nil_iff (t : Turn) : t.fetches ≠ [] ↔ t.Fetches := by
  obtain ⟨verb, session, c, es, h⟩ := t
  unfold fetches Fetches calls
  by_cases hv : verb = .create
  · subst hv
    obtain ⟨p, h⟩ := h
    rw [if_pos rfl]
    constructor
    · intro hne
      cases asking_of_create h with
      | unnamed now => exact absurd rfl hne
      | @refused now answer hn =>
        match answer, hn with
        | .error f, _ => exact absurd rfl hne
        | .ok none, _ => exact absurd rfl hne
        | .ok (some db), hn => exact absurd rfl (hn db)
      | created now _ => exact absurd rfl hne
      | @fetched now db hs hd answer =>
        exact ⟨rfl, hs, db, List.mem_cons_of_mem _ List.mem_cons_self, hd⟩
    · rintro ⟨_, hs, db, hm, hd⟩
      cases asking_of_create h with
      | unnamed now => simp at hm
      | @refused now answer hn =>
        have ha : Except.ok (some db) = answer := by simpa using hm
        exact absurd ha.symm (hn db)
      | @created now db' ho =>
        obtain rfl : db = db' := by simpa using hm
        rcases ho with ho | ho
        · rw [show c.spec.connectionSecretRef = none from ho] at hs
          cases hs
        · rw [hd] at ho
          cases ho
      | fetched now _ _ answer => exact List.cons_ne_nil _ _
  · rw [if_neg hv]
    exact ⟨fun hn => absurd rfl hn, fun hf => absurd hf.1 hv⟩

end Turn

/-! ## Sequences of turns -/

variable (before : Registry) {turns : List Turn} {timed : List (Nat × Metrics.Event)}
  {operation : String} {success : Bool}

/-- **Over a sequence** the calls are those that are counted and the fetches of creations. -/
theorem count_calls (p : String × Bool) : (turns.flatMap Turn.calls).count p =
    (turns.flatMap Turn.counted).count p + (turns.flatMap Turn.fetches).count p := by
  induction turns with
  | nil => rfl
  | cons t turns ih =>
    rw [List.flatMap_cons, List.flatMap_cons, List.flatMap_cons, List.count_append,
      List.count_append, List.count_append, Turn.calls_eq, List.count_append, ih]
    omega

/-- What a registry counts when it is told of the turns. -/
theorem filterMap_counts? :
    ((turns.flatMap Turn.asked).filterMap recorded?).filterMap Event.counts? =
      turns.flatMap Turn.counted := by
  rw [List.filterMap_filterMap, List.filterMap_flatMap]
  rfl

theorem flatMap_fetches_eq_nil_iff :
    turns.flatMap Turn.fetches = [] ↔ ∀ t ∈ turns, ¬ t.Fetches := by
  rw [List.flatMap_eq_nil_iff]
  refine forall₂_congr fun t _ => ?_
  rw [← Turn.fetches_ne_nil_iff, not_not]

/-- Calls of an operation end in success or not. -/
theorem countP_operation (calls : List (String × Bool)) :
    calls.countP (fun p => p.1 = operation) =
      calls.count (operation, true) + calls.count (operation, false) := by
  induction calls with
  | nil => rfl
  | cons p calls ih =>
    obtain ⟨operation', success'⟩ := p
    rw [List.countP_cons, List.count_cons, List.count_cons, ih]
    cases success' with
    | true =>
      by_cases hp : operation' = operation
      · simp [hp]
        omega
      · simp [hp]
    | false =>
      by_cases hp : operation' = operation
      · simp [hp]
        omega
      · simp [hp]

/-- All calls of an operation that a registry has counted. -/
def total (r : Registry) (operation : String) : Nat :=
  r.externalCount operation true + r.externalCount operation false

theorem operation_of_mem_fetches {p : String × Bool} (h : p ∈ turns.flatMap Turn.fetches) :
    p.1 = "get" := by
  obtain ⟨t, _, ht⟩ := List.mem_flatMap.1 h
  unfold Turn.fetches at ht
  split at ht
  · exact of_decide_eq_true (List.mem_filter.1 ht).2
  · cases ht

/-- What a registry counts of an operation lags behind its calls by the fetches of creations. -/
theorem total_recordAll (operation : String)
    (h : timed.map Prod.snd = (turns.flatMap Turn.asked).filterMap recorded?) :
    total (before.recordAll timed) operation +
        (turns.flatMap Turn.fetches).countP (fun p => p.1 = operation) =
      total before operation + (turns.flatMap Turn.calls).countP fun p => p.1 = operation := by
  rw [countP_operation, countP_operation, total, total, Registry.externalCount_recordAll,
    Registry.externalCount_recordAll, h, filterMap_counts?, count_calls, count_calls]
  omega

/-- **Calls are counted.** Whatever the verbs do in turn, to any clusters and with any answers, the
counter of an operation that ended in one way grows by the calls that did, but for the fetches that
creations make. So what is counted of an operation is all of its calls, unless they are fetches: of
these it is all exactly if no creation makes one, which it does if the cluster wants connection
details and the new database came without a connection. -/
theorem calls_counted (h : timed.map Prod.snd = (turns.flatMap Turn.asked).filterMap recorded?) :
    (∀ operation success, (before.recordAll timed).externalCount operation success +
        (turns.flatMap Turn.fetches).count (operation, success) =
      before.externalCount operation success +
        (turns.flatMap Turn.calls).count (operation, success)) ∧
    (∀ operation, operation ≠ "get" → total (before.recordAll timed) operation =
      total before operation + (turns.flatMap Turn.calls).countP fun p => p.1 = operation) ∧
    ((total (before.recordAll timed) "get" =
      total before "get" + (turns.flatMap Turn.calls).countP fun p => p.1 = "get") ↔
        ∀ t ∈ turns, ¬ t.Fetches) := by
  refine ⟨fun operation success => ?_, fun operation hget => ?_, ?_⟩
  · rw [Registry.externalCount_recordAll, h, filterMap_counts?, count_calls]
    omega
  · have hnone : (turns.flatMap Turn.fetches).countP (fun p => p.1 = operation) = 0 := by
      refine List.countP_eq_zero.2 fun p hp hop => hget ?_
      exact (of_decide_eq_true hop).symm.trans (operation_of_mem_fetches hp)
    have hlag := total_recordAll before operation h
    omega
  · have hall : (turns.flatMap Turn.fetches).countP (fun p => p.1 = "get") =
        (turns.flatMap Turn.fetches).length :=
      List.countP_eq_length.2 fun p hp => decide_eq_true (operation_of_mem_fetches hp)
    have hlag := total_recordAll before "get" h
    rw [← flatMap_fetches_eq_nil_iff, ← List.length_eq_zero_iff]
    omega

namespace Sample

/-- A remote API that finds, creates and deletes a database without a connection. -/
def answers : (q : Outside.Question) → Outside.Answer q
  | .database _ (.get id) => .ok { id }
  | .database _ (.create _) => .ok (some { id := "a" })
  | .database _ (.delete _) => .ok ()
  | .kube _ => .error (.unreadable "")
  | .clock => Exchange.Sample.now
  | .record _ => ()
  | .pause _ => ()

/-- A session. -/
def opened : Session := ⟨"http://d", "t"⟩

/-- A creation of a database for a cluster that wants connection details. -/
def creating : Turn where
  verb := .create
  session := opened
  cluster := Exchange.Sample.cluster ""
  asked := (Prog.play (fun _ => answers) 0 (create opened (Exchange.Sample.cluster ""))).1
  asks := ⟨_, Prog.run_play (fun _ => answers) 0 (create opened (Exchange.Sample.cluster ""))⟩

/-- A look at the database afterwards. -/
def observing : Turn where
  verb := .observe
  session := opened
  cluster := Exchange.Sample.cluster "a"
  asked := (Prog.play (fun _ => answers) 0 (observe opened (Exchange.Sample.cluster "a"))).1
  asks := ⟨_, Prog.run_play (fun _ => answers) 0 (observe opened (Exchange.Sample.cluster "a"))⟩

/-- What the registry is told of both. -/
def counts : List (Nat × Metrics.Event) :=
  [(0, .externalCall "create" true), (0, .externalCall "get" true)]

theorem map_snd_counts :
    counts.map Prod.snd = ([creating, observing].flatMap Turn.asked).filterMap recorded? := by
  decide +kernel

theorem fetches_creating : creating.fetches = [("get", true)] := by
  decide +kernel

end Sample

open Sample in
/-- A database is created, fetched for its details and looked at: of its two fetches one counts. -/
theorem calls_counted_creating : counts.map Prod.snd =
      ([creating, observing].flatMap Turn.asked).filterMap recorded? ∧
    total (Registry.recordAll {} counts) "create" = 1 ∧
    total (Registry.recordAll {} counts) "get" ≠
      total {} "get" + ([creating, observing].flatMap Turn.calls).countP fun p => p.1 = "get" := by
  have hcounted := calls_counted {} map_snd_counts
  refine ⟨map_snd_counts, ?_, fun hget => ?_⟩
  · rw [hcounted.2.1 "create" (by decide)]
    decide +kernel
  · have hfetches : creating.Fetches := by
      rw [← Turn.fetches_ne_nil_iff, fetches_creating]
      exact List.cons_ne_nil _ _
    exact hcounted.2.2.1 hget creating List.mem_cons_self hfetches

open Sample in
/-- **Not every call is counted**: one fetch of two is not. -/
theorem calls_not_counted : ¬ ∀ (before : Registry) (turns : List Turn)
    (timed : List (Nat × Metrics.Event)),
      timed.map Prod.snd = (turns.flatMap Turn.asked).filterMap recorded? →
        ∀ operation, total (before.recordAll timed) operation = total before operation +
          (turns.flatMap Turn.calls).countP fun p => p.1 = operation := by
  intro hall
  have hget := hall {} [creating, observing] counts map_snd_counts "get"
  revert hget
  decide +kernel

end Lifecycle

end ClusterKeeper
