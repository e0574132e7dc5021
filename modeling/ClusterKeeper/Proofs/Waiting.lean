import ClusterKeeper.Proofs.Gauge

/-!
# How long a success waits

A reconcile of a live cluster has two ends that choose when the cluster is looked at again. Where a
database is created the delay is fixed, and where one is found it is read off the status. Since the
status says that the database is being created wherever one was, one rule holds for both.

* `delay_follows_status`: the delay follows the status that was written.
-/

namespace ClusterKeeper.Exchange

open Reconcile

variable {c : Cluster} {tr : Trace} {action : Action} {index : Nat} {config : Config}

/-- **The delay follows the status.** A reconcile of a live cluster that succeeds, with whatever
answers and whatever the status said before, writes one status. It waits 15 seconds if the first
Ready condition of this has the reason Creating, and the configured time otherwise. That reason is
there where a database was created; and where one was found, it is there if the remote status calls
for it, or if this calls for nothing and the reason was there before. -/
theorem delay_follows_status (h : (exchanges config c).Run tr (.ok action))
    (hi : Finalizer.index? c = some index) (hd : Finalizer.isDeleted c = false) :
    ∃ status, tr.filterMap writtenStatus? = [status] ∧
      action = .requeue (if status.readyReason? = some .creating then 15
        else config.reconcileInterval) ∧
      (status.readyReason? = some .creating ↔
        ∃ first, status.conditions.find? (fun d => d.type = "Ready") = some first ∧
          first.reason = some "Creating") ∧
      ((0 < creations tr ∧ status.readyReason? = some .creating) ∨
        (creations tr = 0 ∧ ∃ e ∈ tr, ∃ db, fetched? e = some db ∧
          status.readyReason? = (Reason.ofRemoteStatus? db.status).or c.readyReason?)) := by
  obtain ⟨es, rfl, ha⟩ := applying_of_ok h hi hd
  obtain ⟨status, hwritten, hwaited, hcases⟩ := wrote_of_applying ha
  have hround : (countedRound es false).filterMap writtenStatus? = [status] :=
    written_of_countedRound.trans hwritten
  have hcreations : creations (countedRound es false) = creations es := creations_countedRound
  refine ⟨status, hround, hwaited, Status.readyReason?_eq_some_iff, ?_⟩
  rcases hcases with ⟨hnone, -, e, he, db, hf, hready⟩ | ⟨hpos, -, hready⟩
  · have hmem : e ∈ countedRound es false :=
      List.mem_append_left _ (List.mem_cons_of_mem _ he)
    exact Or.inr ⟨hcreations.trans hnone, e, hmem, db, hf, hready⟩
  · exact Or.inl ⟨hcreations.symm ▸ hpos, hready⟩

namespace Sample

/-- A cluster with two Ready conditions, of which the first says that it is being created. -/
def waiting : Cluster :=
  { cluster "a" with
    status := some
      { conditions := [Reason.creating.condition now, Reason.available.condition now] } }

/-- The database is found, with a status that calls for nothing. -/
def migrating : (q : Question) → Answer q :=
  answer (database "a" none)
    (some (.obj [("database", .obj [("id", .str "a"), ("status", .str "migrating")])]))

theorem kept_waiting : (play migrating waiting).2.isOk = true ∧
    (((play migrating waiting).1.filterMap writtenStatus?).map Status.readyReason?) =
      [some .creating] := by
  decide +kernel

end Sample

open Sample in
/-- Where the remote status calls for nothing, the condition of before decides. -/
theorem delay_follows_status_kept : Finalizer.index? waiting = some 0 ∧
    Finalizer.isDeleted waiting = false ∧
    (exchanges Sample.config waiting).Run (play migrating waiting).1 (.ok (.requeue 15)) := by
  obtain ⟨hok, hreason⟩ := kept_waiting
  obtain ⟨action, hrun⟩ := run_play_of_isOk hok
  have hi : Finalizer.index? waiting = some 0 := by decide
  obtain ⟨status, hwritten, hdelay, -⟩ := delay_follows_status hrun hi rfl
  have hready : status.readyReason? = some .creating := by
    rw [hwritten] at hreason
    exact List.singleton_inj.1 hreason
  rw [if_pos hready] at hdelay
  exact ⟨hi, rfl, hdelay ▸ hrun⟩

end ClusterKeeper.Exchange
