import ClusterKeeper.Json.Printer
import ClusterKeeper.Proofs.Creation

/-!
# Histories

A cluster is reconciled again and again, each time as the store then has it. What others change of
it meanwhile does not matter, as long as they leave the identifier.

* `History`: reconciles of one cluster, one after another.
* `creations_le_succ_losses`: the databases created are at most one more than the times that one
  was found gone.
-/

namespace ClusterKeeper.Exchange

open Reconcile

variable {name id x start : String} {tr : Trace} {trs : List Trace} {e : Event}

/-- Reconciles of the cluster with a name, oldest first. The store holds no identifier when they
start, and each is of a cluster with the identifier that the store then holds. -/
inductive History (config : Config) (name : String) : List Trace → Prop
  | start : History config name []
  | reconcile {trs : List Trace} {c : Cluster} {tr : Trace} {r : Except Error Action}
      (h : History config name trs) (hn : c.metadata.name = some name)
      (hc : c.externalName = storedName name "" trs.flatten)
      (hr : (exchanges config c).Run tr r) : History config name (trs ++ [tr])

/-- Whether each creation is followed by an exchange that records an identifier. -/
def namesCreated (name : String) : Trace → Bool
  | [] => true
  | e :: rest => ((created? e).isNone || rest.any (naming name)) && namesCreated name rest

theorem any_naming_of_namesCreated {pre post : Trace} {db : Database}
    (h : namesCreated name (pre ++ e :: post) = true) (he : created? e = some db) :
    post.any (naming name) = true := by
  induction pre with
  | nil =>
    rw [List.nil_append, namesCreated, he, Bool.and_eq_true] at h
    exact h.1
  | cons g pre ih =>
    rw [List.cons_append, namesCreated, Bool.and_eq_true] at h
    exact ih h.2

/-- Exchanges that leave the identifier leave it together. -/
theorem storedName_of_renamedBy (h : ∀ e ∈ tr, renamedBy name id e = id) :
    storedName name id tr = id := by
  induction tr with
  | nil => rfl
  | cons e tr ih =>
    rw [List.forall_mem_cons] at h
    rw [storedName_cons, h.1, ih h.2]

theorem storedName_of_keeps (h : ∀ e ∈ tr, Keeps name id e) : storedName name id tr = id :=
  storedName_of_renamedBy fun e he => (h e he).renamed

/-- Of exchanges that record no identifier but `x`, one is enough. -/
theorem storedName_of_binds (h : ∀ e ∈ tr, Binds name x e) :
    storedName name start tr = if tr.any (naming name) then x else start := by
  induction tr generalizing start with
  | nil => rfl
  | cons e tr ih =>
    rw [List.forall_mem_cons] at h
    rw [storedName_cons, h.1.renamed, ih h.2, List.any_cons]
    cases naming name e with
    | true => simp
    | false => rfl

theorem creations_append (tr tr' : Trace) : creations (tr ++ tr') = creations tr + creations tr' :=
  List.countP_append

theorem losses_append (tr tr' : Trace) : losses (tr ++ tr') = losses tr + losses tr' :=
  List.countP_append

theorem creations_eq_zero (h : ∀ e ∈ tr, created? e = none) : creations tr = 0 := by
  refine List.countP_eq_zero.2 fun e he => ?_
  rw [h e he]
  exact Bool.false_ne_true

/-- A creation changes no identifier by itself. -/
theorem renamedBy_of_created {db : Database} (h : created? e = some db) :
    renamedBy name id e = id := by
  obtain ⟨q, answer⟩ := e
  cases q with
  | kube request => cases h
  | database request => rfl
  | clock => rfl
  | record event => rfl
  | pause millis => rfl

/-- What is owed to the store: 1 once it holds an identifier. -/
def held (id : String) : Nat := if id = "" then 0 else 1

theorem held_le_one (id : String) : held id ≤ 1 := by
  unfold held
  split <;> decide

/-- **Step.** A reconcile that creates a database binds the cluster anew, or had found the old
database gone. -/
theorem creations_add_held_le {config : Config} {c : Cluster} {r : Except Error Action}
    (hr : (exchanges config c).Run tr r)
    (hid : ∀ e ∈ tr, ∀ db, created? e = some db → db.id ≠ "") (hn : namesCreated name tr = true) :
    creations tr + held c.externalName ≤
      losses tr + held (storedName name c.externalName tr) := by
  rcases reconcile_keeps_or_creates name hr with hk | ⟨hv, db, pre, e, post, rfl, hpre, he, hpost⟩
  · rw [storedName_of_keeps hk, creations_eq_zero fun e he => (hk e he).created]
    omega
  · have hcre : creations (pre ++ e :: post) = 1 := by
      have hone : creations [e] = 1 := by simp [creations, he]
      rw [creations_append, creations_eq_zero fun g hg => (hpre g hg).created,
        ← List.singleton_append, creations_append, hone,
        creations_eq_zero fun g hg => (hpost g hg).created]
    have hst : storedName name c.externalName (pre ++ e :: post) = db.id := by
      rw [storedName_append, storedName_of_keeps hpre, storedName_cons, renamedBy_of_created he,
        storedName_of_binds hpost, if_pos (any_naming_of_namesCreated hn he)]
    have hne : db.id ≠ "" := hid e (List.mem_append_right _ List.mem_cons_self) db he
    have hheld : held db.id = 1 := if_neg hne
    rw [hcre, hst, hheld]
    rcases hv with hv | ⟨g, hg, hv⟩
    · have : held c.externalName = 0 := if_pos hv
      omega
    · have : 0 < losses (pre ++ e :: post) := List.countP_pos_iff.2 ⟨g, hg, hv⟩
      have := held_le_one c.externalName
      omega

/-- **Invariant of histories.** An identifier that the store holds pays for one creation more. -/
theorem creations_le_losses_add_held {config : Config} (h : History config name trs)
    (hid : ∀ tr ∈ trs, ∀ e ∈ tr, ∀ db, created? e = some db → db.id ≠ "")
    (hn : ∀ tr ∈ trs, namesCreated name tr = true) :
    creations trs.flatten ≤ losses trs.flatten + held (storedName name "" trs.flatten) := by
  induction h with
  | start => exact Nat.zero_le _
  | @reconcile trs c tr r _ _ hc hr ih =>
    rw [List.forall_mem_append, List.forall_mem_singleton] at hid hn
    have hrec := ih hid.1 hn.1
    have hstep := creations_add_held_le hr hid.2 hn.2
    rw [hc] at hstep
    rw [List.flatten_append, List.flatten_singleton, creations_append, losses_append,
      storedName_append]
    omega

/-- **No second database.** Over any history in which every database that is created comes with an
identifier, and one of the requests to record it is accepted, the databases created are at most
one more than the times that one was found gone. -/
theorem creations_le_succ_losses {config : Config} (h : History config name trs)
    (hid : ∀ tr ∈ trs, ∀ e ∈ tr, ∀ db, created? e = some db → db.id ≠ "")
    (hn : ∀ tr ∈ trs, namesCreated name tr = true) :
    creations trs.flatten ≤ 1 + losses trs.flatten := by
  have := creations_le_losses_add_held h hid hn
  have := held_le_one (storedName name "" trs.flatten)
  omega

/-! ## A history that creates twice -/

namespace Sample

/-- A provider configuration as the store has it. -/
def storedConfig : Json := .obj [("metadata", .obj []), ("spec", .obj [("credentials",
  .obj [("secretRef", .obj [("namespace", .str "n"), ("name", .str "s")])])])]

/-- A secret with a token. -/
def storedSecret : Json := .obj [("data", .obj [("token", .str "dA==")])]

/-- A cluster as the store gives it back. -/
def storedCluster : Json := .obj [("metadata", .obj []), ("spec", .obj [("forProvider",
  .obj [("numNodes", .int 1), ("size", .str ""), ("region", .str "")])])]

/-- What the store has to say to a request: it accepts whatever is written. -/
def stored (request : Kube.Request) : Json :=
  if request.method = .patch then storedCluster
  else if request.path = Kube.Call.providerConfigPlace ++ "/default" then storedConfig
  else storedSecret

/-- A database in an answer of the remote API. -/
def database (id : String) (connection : Option Json) : Json :=
  .obj [("database", .fields [("id", some (.str id)), ("connection", connection)])]

theorem isSome_now : (Instant.of? 2024 1 1 0 0 0 0).isSome = true := by decide

/-- The time at which all of it happens. -/
def now : Instant := (Instant.of? 2024 1 1 0 0 0 0).get isSome_now

/-- A response with a value in its body. -/
def response (status : Nat) (j : Json) : Http.Outcome :=
  .response ⟨status, Utf8.encode j.render, true⟩

/-- A remote API that answers a creation with `created` and everything else with `found`, if that
is anything, and a store that accepts whatever is written. -/
def answer (created : Json) (found : Option Json) : (q : Question) → Answer q
  | .clock => now
  | .record _ => ()
  | .pause _ => ()
  | .kube request => response 200 (stored request)
  | .database request =>
    if request.method = .post then response 201 created
    else found.elim (.response ⟨404, [], true⟩) (response 200)

/-- A live cluster with the identifier `id`. -/
def cluster (id : String) : Cluster where
  metadata := {
    name := some "db"
    finalizers := some [Finalizer.name]
    annotations := some (Dict.empty.insert Cluster.externalNameKey id) }
  spec := {
    forProvider := { numNodes := 1, size := "s", region := "r" }
    connectionSecretRef := some { name := "c", ns := "n" } }

/-- The operator's configuration. -/
def config : Config := { apiUrl := "http://d" }

/-- A reconcile of a cluster, each question with the same answer whenever it is asked. -/
def play (answers : (q : Question) → Answer q) (c : Cluster) : Trace × Except Error Action :=
  Prog.play (fun _ => answers) 0 (exchanges config c)

theorem run_play (answers : (q : Question) → Answer q) (c : Cluster) :
    (exchanges config c).Run (play answers c).1 (play answers c).2 :=
  Prog.run_play (I := interface) (fun _ => answers) 0 (exchanges config c)

/-- No database is found, and what is created has the identifier `a`. -/
def givesA : (q : Question) → Answer q := answer (database "a" none) none

/-- No database is found, and what is created has the identifier `b`. -/
def givesB : (q : Question) → Answer q := answer (database "b" none) none

theorem storedName_givesA : storedName "db" "" (play givesA (cluster "")).1 = "a" ∧
    namesCreated "db" (play givesA (cluster "")).1 = true ∧
    ∀ e ∈ (play givesA (cluster "")).1, (created? e).all fun db => db.id ≠ "" := by
  decide +kernel

theorem creations_givesB :
    creations ((play givesA (cluster "")).1 ++ (play givesB (cluster "a")).1) = 2 ∧
    namesCreated "db" (play givesB (cluster "a")).1 = true ∧
    ∀ e ∈ (play givesB (cluster "a")).1, (created? e).all fun db => db.id ≠ "" := by
  decide +kernel

end Sample

open Sample in
/-- The bound is met: the database of the first reconcile is gone when the second looks for it. -/
theorem creations_le_succ_losses_twice : ∃ trs, History config "db" trs ∧
    creations trs.flatten = 2 ∧ creations trs.flatten ≤ 1 + losses trs.flatten := by
  obtain ⟨hst, hn₁, hid₁⟩ := storedName_givesA
  obtain ⟨hcre, hn₂, hid₂⟩ := creations_givesB
  have hfirst : History config "db" ([] ++ [(play givesA (cluster "")).1]) :=
    .reconcile .start rfl rfl (run_play givesA (cluster ""))
  have hc : (cluster "a").externalName =
      storedName "db" "" (([] : List Trace) ++ [(play givesA (cluster "")).1]).flatten := by
    rw [List.nil_append, List.flatten_singleton, hst]
    rfl
  have h : History config "db"
      ([] ++ [(play givesA (cluster "")).1] ++ [(play givesB (cluster "a")).1]) :=
    .reconcile hfirst rfl hc (run_play givesB (cluster "a"))
  refine ⟨_, h, ?_, creations_le_succ_losses h ?_ ?_⟩
  · rw [List.nil_append, List.flatten_append, List.flatten_singleton, List.flatten_singleton]
    exact hcre
  · rw [List.nil_append, List.forall_mem_append, List.forall_mem_singleton,
      List.forall_mem_singleton]
    refine ⟨fun e he db h => ?_, fun e he db h => ?_⟩
    · simpa [h] using hid₁ e he
    · simpa [h] using hid₂ e he
  · rw [List.nil_append, List.forall_mem_append, List.forall_mem_singleton,
      List.forall_mem_singleton]
    exact ⟨hn₁, hn₂⟩

end ClusterKeeper.Exchange
