import ClusterKeeper.Proofs.Reconcile
import ClusterKeeper.Proofs.Requests
import ClusterKeeper.Proofs.Store

/-!
# What the store is sent

The operator writes three things of a cluster: its identifier, in up to three tries, its status, and
its connection details. Each is one patch, as long as requests can be sent for the names of the
cluster.

* `Cluster.nameRequest`, `Cluster.statusRequest`, `Cluster.secretRequest`: the patches.
* `Cluster.Served`: the names are such that they can be sent.
* `Tried`, `tried_of_naming`: the tries at recording an identifier.
* `sent_of_recordStatus`, `sent_of_publish`: recording a status, and publishing details.
-/

namespace ClusterKeeper

open Kube

/-! ## What the store is sent -/

namespace Cluster

variable (c : Cluster)

/-- The patch that records an identifier. -/
def nameRequest (id : String) : Request :=
  patchOf s!"{Call.clusterPlace}/{c.anyName}?" "application/merge-patch+json"
    (Call.externalNameBody id)

/-- The patch that records a status. -/
def statusRequest (status : Status) : Request :=
  patchOf s!"{Call.clusterPlace}/{c.anyName}/status?" "application/merge-patch+json"
    (Call.nested "status" status.toJson)

/-- The patch that applies a secret with connection details. -/
def secretRequest (reference : SecretReference) (details : ConnectionDetails) : Request :=
  patchOf s!"{Call.secretPlace reference.ns}/{reference.name}?{Call.applySettings}"
    "application/apply-patch+yaml" (c.connectionSecret reference details).toJson

/-- **A cluster is served**: requests can be sent for its name, and for the secret that it asks
for. -/
structure Served : Prop where
  named : c.anyName ≠ ""
  cluster : Sendable s!"{Call.clusterPlace}/{c.anyName}?"
  status : Sendable s!"{Call.clusterPlace}/{c.anyName}/status?"
  secret : ∀ reference ∈ c.spec.connectionSecretRef, reference.name ≠ "" ∧
    Sendable s!"{Call.secretPlace reference.ns}/{reference.name}?{Call.applySettings}"

variable {c}

theorem Served.request_setExternalName (h : c.Served) (id : String) :
    (Call.setExternalName c.anyName id).request = .ok (c.nameRequest id) := by
  have htarget : Call.clusterPlace ++ "/" ++ c.anyName ++ "" ++ "?" ++ "" =
      Call.clusterPlace ++ "/" ++ c.anyName ++ "?" := by
    rw [String.append_empty, String.append_empty]
  exact write_eq_patchOf h.named htarget h.cluster _ _

theorem Served.request_setStatus (h : c.Served) (status : Status) :
    (Call.setStatus c.anyName status).request = .ok (c.statusRequest status) := by
  have htarget : Call.clusterPlace ++ "/" ++ c.anyName ++ "/status" ++ "?" ++ "" =
      Call.clusterPlace ++ "/" ++ c.anyName ++ "/status?" := by
    rw [String.append_empty, String.append_assoc]
    rfl
  exact write_eq_patchOf h.named htarget h.status _ _

theorem Served.request_applySecret (h : c.Served) {reference : SecretReference}
    (hr : c.spec.connectionSecretRef = some reference) (details : ConnectionDetails) :
    (Call.applySecret reference (c.connectionSecret reference details)).request =
      .ok (c.secretRequest reference details) := by
  have htarget : Call.secretPlace reference.ns ++ "/" ++ reference.name ++ "" ++ "?" ++
      Call.applySettings =
        Call.secretPlace reference.ns ++ "/" ++ reference.name ++ "?" ++ Call.applySettings := by
    rw [String.append_empty]
  obtain ⟨hname, hsend⟩ := h.secret reference hr
  exact write_eq_patchOf hname htarget hsend _ _

/-- **A cluster has become another**: only its identifier and its status may differ. -/
structure Became (c : Cluster) (id : String) (status : Status) (c' : Cluster) : Prop where
  externalName : c'.externalName = id
  status : c'.status = some status
  anyName : c'.anyName = c.anyName
  spec : c'.spec = c.spec
  secret : ∀ reference details,
    c'.connectionSecret reference details = c.connectionSecret reference details

end Cluster

namespace Exchange

open Reconcile

variable {α β : Type} {id : String} {c c' : Cluster} {status : Status} {details : ConnectionDetails}
  {es : Trace} {request : Kube.Request} {failure? : Http.Outcome → Option Error}

/-! ## What fails -/

/-- The error of a result, if it is one. -/
def errorOf : Except Error α → Option Error
  | .ok _ => none
  | .error e => some e

theorem errorOf_map (r : Except Error α) (f : α → β) : errorOf (r.map f) = errorOf r := by
  cases r with
  | ok a => rfl
  | error e => rfl

/-- The error that the outcome of a call of the store stands for, if it is a failure. -/
def failed? (call : Kube.Call) (context : String) (outcome : Http.Outcome) : Option Error :=
  errorOf ((call.interpret outcome).mapError fun f => .kube s!"{context}: {f.message}")

/-- Why an identifier is not recorded. -/
def nameFailed? (c : Cluster) (id : String) : Http.Outcome → Option Error :=
  failed? (.setExternalName c.anyName id) "Failed to set external name"

/-- Why a status is not recorded. -/
def statusFailed? (c : Cluster) (status : Status) : Http.Outcome → Option Error :=
  failed? (.setStatus c.anyName status) "Failed to update status"

/-- Why connection details are not published. -/
def secretFailed? (c : Cluster) (reference : SecretReference) (details : ConnectionDetails) :
    Http.Outcome → Option Error :=
  failed? (.applySecret reference (c.connectionSecret reference details))
    "Failed to apply connection secret"

/-! ## Tries -/

/-- Exchanges of one request, a pause after each but the last. -/
def tries (request : Kube.Request) (last : Http.Outcome) : List Http.Outcome → Trace
  | [] => [.kube request last]
  | outcome :: outcomes =>
    .kube request outcome :: .pause nameBackoff :: tries request last outcomes

/-- **Up to `n` tries** of a request: each but the last fails, and the last only if there may be no
more. What they stop with is the error of the last. -/
inductive Tried (request : Kube.Request) (failure? : Http.Outcome → Option Error) (n : Nat) :
    Trace → Option Error → Prop
  | tried (outcomes : List Http.Outcome) (last : Http.Outcome)
      (hfailed : ∀ outcome ∈ outcomes, failure? outcome ≠ none) (hn : outcomes.length < n)
      (hlast : failure? last ≠ none → outcomes.length + 1 = n) :
      Tried request failure? n (tries request last outcomes) (failure? last)

/-- Trying again is trying a request, if each try is one. -/
theorem tried_of_retrying {op : Trace → Except Error α → Prop} {n : Nat} {r : Except Error α}
    (hop : ∀ es r, op es r → ∃ outcome, es = [.kube request outcome] ∧ errorOf r = failure? outcome)
    (hn : 0 < n) (h : Retrying op nameBackoff n es r) :
    Tried request failure? n es (errorOf r) := by
  induction h with
  | succeeded h =>
    obtain ⟨outcome, rfl, hr⟩ := hop _ _ h
    rw [hr]
    refine .tried [] outcome (List.forall_mem_nil _) hn fun hfail => ?_
    exact absurd hr.symm hfail
  | failed hone h =>
    obtain ⟨outcome, rfl, hr⟩ := hop _ _ h
    rw [hr]
    refine .tried [] outcome (List.forall_mem_nil _) hn fun _ => ?_
    rw [List.length_nil]
    omega
  | @again n es es' error r h _ ih =>
    obtain ⟨outcome, rfl, hr⟩ := hop _ _ h
    -- one more failure, in front of the tries that follow it
    have hrest := ih (Nat.succ_pos n)
    generalize errorOf r = stopped at hrest
    cases hrest with
    | tried outcomes last hfailed hlen hlast =>
      have hfirst : failure? outcome ≠ none := by
        rw [← hr]
        exact Option.some_ne_none _
      refine .tried (outcome :: outcomes) last (List.forall_mem_cons.2 ⟨hfirst, hfailed⟩) ?_
        fun hfail => ?_
      · rw [List.length_cons]
        omega
      · rw [List.length_cons, hlast hfail]

theorem tried_of_naming {r : Except Error Cluster} (hs : c.Served) (hc : c.Became id status c')
    (h : Naming c' es r) :
    Tried (c.nameRequest id) (nameFailed? c id) nameAttempts es (errorOf r) := by
  refine tried_of_retrying (fun es r hop => ?_) (by decide) h
  obtain ⟨a, ha, rfl⟩ := accessed_call.1 hop
  rw [hc.anyName, hc.externalName] at ha
  obtain ⟨outcome, rfl, rfl⟩ := sent_of_asked ha (hs.request_setExternalName id)
  exact ⟨outcome, rfl, rfl⟩

/-! ## The status and the details -/

theorem sent_of_recordStatus {r : Except Error Unit} (hs : c.Served) (hc : c.Became id status c')
    (h : Accessed (Kube.recordStatus c') es r) : ∃ outcome,
      es = [.kube (c.statusRequest status) outcome] ∧
        errorOf r = statusFailed? c status outcome := by
  cases accessed_recordStatus.1 h with
  | unset hnone =>
    rw [hc.status] at hnone
    cases hnone
  | asked hsome ha =>
    obtain rfl := Option.some.inj (hc.status.symm.trans hsome)
    rw [hc.anyName] at ha
    obtain ⟨outcome, rfl, rfl⟩ := sent_of_asked ha (hs.request_setStatus _)
    exact ⟨outcome, rfl, errorOf_map _ _⟩

/-- Details are published if there are any and the cluster asks for them. -/
theorem sent_of_publish {r : Except Error Unit} (hs : c.Served) (hc : c.Became id status c')
    (h : Accessed (Kube.publish c' details) es r) :
    ((details.isEmpty = true ∨ c.spec.connectionSecretRef = none) ∧ es = [] ∧ r = .ok ()) ∨
      ∃ reference outcome, details.isEmpty = false ∧
        c.spec.connectionSecretRef = some reference ∧
        es = [.kube (c.secretRequest reference details) outcome] ∧
        errorOf r = secretFailed? c reference details outcome := by
  cases accessed_publish.1 h with
  | nothing hempty => exact .inl ⟨.inl hempty, rfl, rfl⟩
  | unasked _ hr =>
    rw [hc.spec] at hr
    exact .inl ⟨.inr hr, rfl, rfl⟩
  | @asked hfull reference hr _ answer ha =>
    rw [hc.spec] at hr
    rw [hc.secret] at ha
    obtain ⟨outcome, rfl, rfl⟩ := sent_of_asked ha (hs.request_applySecret hr details)
    exact .inr ⟨reference, outcome, hfull, hr, rfl, errorOf_map _ _⟩

end Exchange

end ClusterKeeper
