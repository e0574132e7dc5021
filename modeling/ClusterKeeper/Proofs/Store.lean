import ClusterKeeper.Proofs.Exchange

/-!
# What the store is asked

What recording a status and publishing details can come to: one call, or none where there is
nothing to write.

* `Recording`, `accessed_recordStatus`: recording a status.
* `Publishing`, `accessed_publish`: publishing connection details.
-/

namespace ClusterKeeper.Exchange

variable {α : Type} {c : Cluster} {details : ConnectionDetails} {es : Trace} {r : Except Error Unit}

/-- **Recording a status**, which takes no call where there is none. -/
inductive Recording (c : Cluster) : Trace → Except Error Unit → Prop
  | unset (h : c.status = none) : Recording c [] (.ok ())
  | asked {status : Status} (h : c.status = some status) {es : Trace}
      {answer : Except Kube.Failure Cluster} (ha : Asked (.setStatus c.anyName status) es answer) :
      Recording c es ((answer.mapError fun f =>
        .kube s!"Failed to update status: {f.message}").map fun _ => ())

/-- **Publishing details**, which takes no call where there are none or nobody asks for them. -/
inductive Publishing (c : Cluster) (details : ConnectionDetails) :
    Trace → Except Error Unit → Prop
  | nothing (h : details.isEmpty = true) : Publishing c details [] (.ok ())
  | unasked (h : details.isEmpty = false) (hr : c.spec.connectionSecretRef = none) :
      Publishing c details [] (.ok ())
  | asked (h : details.isEmpty = false) {reference : SecretReference}
      (hr : c.spec.connectionSecretRef = some reference) {es : Trace}
      {answer : Except Kube.Failure Secret}
      (ha : Asked (.applySecret reference (c.connectionSecret reference details)) es answer) :
      Publishing c details es ((answer.mapError fun f =>
        .kube s!"Failed to apply connection secret: {f.message}").map fun _ => ())

/-- A call whose answer is dropped. -/
theorem accessed_call_dropped {call : Kube.Call} {error : Kube.Failure → Error} :
    Accessed ((Kube.call call error).bind fun result => .done (result.map fun _ => ())) es r ↔
      ∃ answer, Asked call es answer ∧ r = (answer.mapError error).map fun _ => () := by
  rw [accessed_bind]
  constructor
  · rintro ⟨es₁, a, es₂, ha, h, rfl⟩
    obtain ⟨rfl, rfl⟩ := accessed_done.1 h
    obtain ⟨answer, hq, rfl⟩ := accessed_call.1 ha
    exact ⟨answer, by rwa [List.append_nil], rfl⟩
  · rintro ⟨answer, hq, rfl⟩
    exact ⟨es, _, [], accessed_call.2 ⟨answer, hq, rfl⟩, accessed_done.2 ⟨rfl, rfl⟩,
      (List.append_nil es).symm⟩

theorem accessed_recordStatus : Accessed (Kube.recordStatus c) es r ↔ Recording c es r := by
  unfold Kube.recordStatus
  constructor
  · intro h
    split at h
    · rename_i hs
      obtain ⟨rfl, rfl⟩ := accessed_done.1 h
      exact .unset hs
    · rename_i status hs
      obtain ⟨answer, ha, rfl⟩ := accessed_call_dropped.1 h
      exact .asked hs ha
  · intro h
    cases h with
    | unset hs => rw [hs]; exact accessed_done.2 ⟨rfl, rfl⟩
    | asked hs ha => rw [hs]; exact accessed_call_dropped.2 ⟨_, ha, rfl⟩

/-- The one request that records a status could have had any other answer. -/
theorem recording_of_other {request : Kube.Request} {outcome : Http.Outcome}
    (h : Recording c es r) (he : Event.kube request outcome ∈ es) :
    es = [.kube request outcome] ∧
      ∀ outcome', ∃ r', Recording c [.kube request outcome'] r' := by
  cases h with
  | unset _ => cases he
  | asked hs ha =>
    rcases asked_iff.1 ha with ⟨f, _, rfl, _⟩ | ⟨request', outcome₀, hr, rfl, _⟩
    · cases he
    · cases List.mem_singleton.1 he
      exact ⟨rfl, fun outcome' => ⟨_, .asked hs (.sent hr outcome')⟩⟩

theorem accessed_publish : Accessed (Kube.publish c details) es r ↔ Publishing c details es r := by
  unfold Kube.publish Kube.applyConnectionSecret
  constructor
  · intro h
    split at h
    · rename_i he
      obtain ⟨rfl, rfl⟩ := accessed_done.1 h
      exact .nothing he
    · rename_i he
      rw [Bool.not_eq_true] at he
      split at h
      · rename_i reference hr
        obtain ⟨answer, ha, rfl⟩ := accessed_call_dropped.1 h
        exact .asked he hr ha
      · rename_i hr
        obtain ⟨rfl, rfl⟩ := accessed_done.1 h
        exact .unasked he hr
  · intro h
    cases h with
    | nothing he => rw [if_pos he]; exact accessed_done.2 ⟨rfl, rfl⟩
    | unasked he hr =>
      rw [if_neg (by rw [he]; exact Bool.false_ne_true), hr]
      exact accessed_done.2 ⟨rfl, rfl⟩
    | asked he hr ha =>
      rw [if_neg (by rw [he]; exact Bool.false_ne_true), hr]
      exact accessed_call_dropped.2 ⟨_, ha, rfl⟩

end ClusterKeeper.Exchange
