import ClusterKeeper.Proofs.Telling

/-!
# The gauge of availability

The gauge of a cluster is set where a database that was found is kept up, and dropped where the
cluster is cleaned up. Where a database is created it is left as it is, whatever the status says
then.

* `gauge_of_applied`, `gauge_of_cleaned`: the gauge after a reconcile.
* `gauge_agrees_iff`: it agrees with the status, unless it said before that the cluster is available
  and a database is created.
* `loss_of_stale`: which takes that the database before was found gone.
-/

namespace ClusterKeeper.Exchange

open Reconcile Metrics

variable {name : String} {c : Cluster} {es tr : Trace} {index : Nat} {config : Config}
  {action : Action} {result : Except Error Action} {failed : Bool} (before : Registry)
  {timed : List (Nat × Metrics.Event)}

/-- The counts around a reconcile say nothing of a gauge. -/
theorem said_of_countedRound :
    (countedRound es failed).filterMap (said? name) = es.filterMap (said? name) := by
  rw [countedRound, List.filterMap_append]
  exact List.append_nil _

theorem written_of_countedRound :
    (countedRound es failed).filterMap writtenStatus? = es.filterMap writtenStatus? := by
  rw [countedRound, List.filterMap_append]
  exact List.append_nil _

theorem creations_countedRound : creations (countedRound es failed) = creations es := by
  rw [countedRound, creations_append]
  rfl

/-- A registry shows of a gauge what was said of it last. -/
theorem availability?_of_recorded (ht : timed.map Prod.snd = tr.filterMap recorded?) :
    (before.recordAll timed).availability? name =
      (tr.filterMap (said? name)).getLast?.getD (before.availability? name) := by
  rw [Registry.availability?_recordAll, ht, List.filterMap_filterMap]
  rfl

/-- **A live cluster**, if all goes well: one status is written, and the gauge is set to what it
says, or left as it was. -/
theorem gauge_of_applied (h : (exchanges config c).Run tr (.ok action))
    (hi : Finalizer.index? c = some index) (hd : Finalizer.isDeleted c = false)
    (ht : timed.map Prod.snd = tr.filterMap recorded?) :
    ∃ status, tr.filterMap writtenStatus? = [status] ∧
      (creations tr = 0 ∧ (before.recordAll timed).availability? c.anyName =
          some (status.readyReason? == some .available) ∨
        0 < creations tr ∧ status.readyReason? = some .creating ∧
          (before.recordAll timed).availability? c.anyName = before.availability? c.anyName) := by
  obtain ⟨es, rfl, ha⟩ := applying_of_ok h hi hd
  obtain ⟨status, hwritten, -, hcases⟩ := wrote_of_applying ha
  refine ⟨status, written_of_countedRound.trans hwritten, ?_⟩
  rw [availability?_of_recorded before ht, said_of_countedRound, creations_countedRound]
  rcases hcases with ⟨hnone, hsaid, -⟩ | ⟨hpos, hsaid, hready⟩
  · refine Or.inl ⟨hnone, ?_⟩
    rw [hsaid]
    rfl
  · refine Or.inr ⟨hpos, hready, ?_⟩
    rw [hsaid]
    rfl

/-- **A deleted cluster**: the gauge is dropped. -/
theorem gauge_of_cleaned (h : (exchanges config c).Run tr result)
    (hi : Finalizer.index? c = some index) (hd : Finalizer.isDeleted c = true)
    (hn : c.metadata.name.isSome = true) (ht : timed.map Prod.snd = tr.filterMap recorded?) :
    (before.recordAll timed).availability? c.anyName = none := by
  obtain ⟨es, hg, rfl⟩ := run_exchanges_iff.1 h
  have hsaid : es.filterMap (said? c.anyName) = [none] := by
    cases hg with
    | applied _ hd' _ => exact absurd (hd'.symm.trans hd) Bool.false_ne_true
    | uncleaned _ _ _ hc => exact said_of_cleaning hc
    | released _ _ _ hc ha =>
      rw [List.filterMap_append, said_of_cleaning hc, (within_of_edited ha).said_eq_nil (by decide)]
      rfl
    | marked hi' _ _ _ => cases hi'.symm.trans hi
    | nameless _ hn' => rw [hn'] at hn; cases hn
    | ignored hi' _ => cases hi'.symm.trans hi
  have hround : (countedRound es (!result.isOk)).filterMap (said? c.anyName) = [none] :=
    said_of_countedRound.trans hsaid
  rw [availability?_of_recorded before ht, hround]
  rfl

/-- **When the gauge agrees.** After a reconcile of a live cluster that succeeds, with whatever
answers and whatever was counted before, the gauge says that the cluster is available exactly if the
status that was written does, unless the gauge said so before and a database was created. After one
of a deleted cluster, which takes a name, there is no gauge. -/
theorem gauge_agrees_iff (h : (exchanges config c).Run tr result)
    (hi : Finalizer.index? c = some index) (ht : timed.map Prod.snd = tr.filterMap recorded?) :
    (Finalizer.isDeleted c = false → ∀ action, result = .ok action →
      ∃ status, tr.filterMap writtenStatus? = [status] ∧
        (((before.recordAll timed).availability? c.anyName = some true ↔
            status.readyReason? = some .available) ↔
          creations tr = 0 ∨ before.availability? c.anyName ≠ some true)) ∧
    (Finalizer.isDeleted c = true → c.metadata.name.isSome = true →
      (before.recordAll timed).availability? c.anyName = none) := by
  refine ⟨?_, fun hd hn => gauge_of_cleaned before h hi hd hn ht⟩
  rintro hd action rfl
  obtain ⟨status, hwritten, hcases⟩ := gauge_of_applied before h hi hd ht
  refine ⟨status, hwritten, ?_⟩
  rcases hcases with ⟨hnone, hgauge⟩ | ⟨hpos, hready, hgauge⟩
  · have hagree : (before.recordAll timed).availability? c.anyName = some true ↔
        status.readyReason? = some .available := by
      rw [hgauge, Option.some_inj, beq_iff_eq]
    exact iff_of_true hagree (Or.inl hnone)
  · have hcreated : creations tr ≠ 0 := Nat.pos_iff_ne_zero.1 hpos
    have hunavailable : status.readyReason? ≠ some .available := by
      rw [hready]
      decide
    rw [hgauge]
    constructor
    · intro hagree
      exact Or.inr fun hbefore => hunavailable (hagree.1 hbefore)
    · rintro (hnone | hbefore)
      · exact absurd hnone hcreated
      · exact iff_of_false hbefore hunavailable

/-! ## A gauge that is stale -/

/-- The gauge is set for a cluster that is bound to a database. -/
theorem bound_of_said {available : Bool} (h : (exchanges config c).Run tr result)
    (hs : some available ∈ tr.filterMap (said? c.anyName)) : c.externalName ≠ "" := by
  obtain ⟨es, hg, rfl⟩ := run_exchanges_iff.1 h
  have hround : (countedRound es (!result.isOk)).filterMap (said? c.anyName) =
      es.filterMap (said? c.anyName) := said_of_countedRound
  rw [hround] at hs
  cases hg with
  | applied _ _ ha =>
    cases ha with
    | unconnected hc =>
      rw [(within_of_connect hc).said_eq_nil (by decide)] at hs
      cases hs
    | unobserved hc ho =>
      rw [((within_of_connect hc).append (within_of_observe ho)).said_eq_nil (by decide)] at hs
      cases hs
    | absent hc ho hi =>
      have hwithin := (within_of_connect hc).append
        ((within_of_observe ho).append (within_of_introducing hi))
      rw [hwithin.said_eq_nil (by decide)] at hs
      cases hs
    | present _ ho _ => exact (settled_of_observe ho).1
  | uncleaned _ _ _ hc =>
    rw [said_of_cleaning hc] at hs
    cases List.mem_singleton.1 hs
  | released _ _ _ hc ha =>
    rw [List.filterMap_append, said_of_cleaning hc,
      (within_of_edited ha).said_eq_nil (by decide)] at hs
    cases List.mem_singleton.1 hs
  | marked _ _ _ ha =>
    rw [(within_of_edited ha).said_eq_nil (by decide)] at hs
    cases hs
  | nameless _ _ => cases hs
  | ignored _ _ => cases hs

/-- A cluster that is bound stays bound, if what is created has an identifier. -/
theorem storedName_ne (h : (exchanges config c).Run tr result) (hn : c.externalName ≠ "")
    (hid : ∀ e ∈ tr, ∀ db, created? e = some db → db.id ≠ "") :
    storedName name c.externalName tr ≠ "" := by
  rcases reconcile_keeps_or_creates name h with hk | ⟨_, db, pre, e, post, rfl, hpre, he, hpost⟩
  · rwa [storedName_of_keeps hk]
  · rw [storedName_append, storedName_of_keeps hpre, storedName_cons, renamedBy_of_created he,
      storedName_of_binds hpost]
    split
    · exact hid e (List.mem_append_right _ List.mem_cons_self) db he
    · exact hn

theorem anyName_of_name (hn : c.metadata.name = some name) : c.anyName = name := by
  unfold Cluster.anyName Metadata.anyName
  rw [hn]
  rfl

/-- **Over a history** a cluster whose gauge was ever set is bound to a database. -/
theorem stored_of_said {trs : List Trace} {available : Bool} (h : History config name trs)
    (hid : ∀ tr ∈ trs, ∀ e ∈ tr, ∀ db, created? e = some db → db.id ≠ "")
    (hs : some available ∈ trs.flatten.filterMap (said? name)) :
    storedName name "" trs.flatten ≠ "" := by
  induction h with
  | start => cases hs
  | @reconcile trs c tr r _ hn hc hr ih =>
    rw [List.forall_mem_append, List.forall_mem_singleton] at hid
    rw [List.flatten_append, List.flatten_singleton, List.filterMap_append, List.mem_append] at hs
    rw [List.flatten_append, List.flatten_singleton, storedName_append, ← hc]
    rcases hs with hs | hs
    · exact storedName_ne hr (hc ▸ ih hid.1 hs) hid.2
    · rw [← anyName_of_name hn] at hs
      exact storedName_ne hr (bound_of_said hr hs) hid.2

/-- **A stale gauge takes a loss.** Over any history, a database is created for a cluster whose
gauge says that it is available only where the one before was found gone in the same reconcile. -/
theorem loss_of_stale {trs : List Trace} (h : History config name trs)
    (hid : ∀ tr ∈ trs, ∀ e ∈ tr, ∀ db, created? e = some db → db.id ≠ "")
    (ht : timed.map Prod.snd = trs.flatten.filterMap recorded?)
    (hgauge : (Registry.recordAll {} timed).availability? name = some true)
    (hc : c.externalName = storedName name "" trs.flatten)
    (hr : (exchanges config c).Run tr result) (hcreated : creations tr ≠ 0) : 0 < losses tr := by
  have hlast : (trs.flatten.filterMap (said? name)).getLast?.getD none = some true := by
    rw [← hgauge, availability?_of_recorded _ ht]
    rfl
  have hsaid : some true ∈ trs.flatten.filterMap (said? name) := by
    cases hl : (trs.flatten.filterMap (said? name)).getLast? with
    | none => rw [hl] at hlast; cases hlast
    | some value =>
      rw [hl] at hlast
      exact hlast ▸ List.mem_of_getLast? hl
  have hbound : c.externalName ≠ "" := hc ▸ stored_of_said h hid hsaid
  rcases reconcile_keeps_or_creates name hr with hk | ⟨hv, _⟩
  · exact absurd (creations_eq_zero fun e he => (hk e he).created) hcreated
  · rcases hv with hv | ⟨e, he, hv⟩
    · exact absurd hv hbound
    · exact List.countP_pos_iff.2 ⟨e, he, hv⟩

namespace Sample

/-- The database is found and is online. -/
def online : (q : Question) → Answer q :=
  answer (database "a" none)
    (some (.obj [("database", .obj [("id", .str "a"), ("status", .str "online")])]))

/-- A registry that was told of some exchanges, each of them at once. -/
def toldOf (before : Registry) (tr : Trace) : Registry :=
  before.recordAll ((tr.filterMap recorded?).map fun event => (0, event))

theorem map_snd_told (tr : Trace) :
    ((tr.filterMap recorded?).map fun event => (0, event)).map Prod.snd =
      tr.filterMap recorded? := by
  rw [List.map_map]
  exact List.map_id _

theorem gauge_online : (play online (cluster "a")).2.isOk = true ∧
    (toldOf {} (play online (cluster "a")).1).availability? "db" = some true := by
  decide +kernel

theorem gauge_recreated : (play givesB (cluster "a")).2.isOk = true ∧
    creations (play givesB (cluster "a")).1 ≠ 0 ∧
    (toldOf (toldOf {} (play online (cluster "a")).1) (play givesB (cluster "a")).1).availability?
      "db" = some true ∧
    (((play givesB (cluster "a")).1.filterMap writtenStatus?).map Status.readyReason?) =
      [some .creating] := by
  decide +kernel

end Sample

open Sample in
/-- A cluster that was available has its database created anew, and a gauge that disagrees with its
status. -/
theorem gauge_agrees_iff_recreated : ∃ before timed status,
    timed.map Prod.snd = (play givesB (cluster "a")).1.filterMap recorded? ∧
      before.availability? "db" = some true ∧
      (play givesB (cluster "a")).1.filterMap writtenStatus? = [status] ∧
      ¬ ((Registry.recordAll before timed).availability? "db" = some true ↔
        status.readyReason? = some .available) := by
  obtain ⟨hok, hcreated, _, _⟩ := gauge_recreated
  obtain ⟨action, hrun⟩ := run_play_of_isOk hok
  obtain ⟨status, hwritten, hagree⟩ :=
    (gauge_agrees_iff (toldOf {} (play online (cluster "a")).1) hrun
      (show Finalizer.index? (cluster "a") = some 0 by decide) (map_snd_told _)).1 rfl action rfl
  refine ⟨_, _, status, map_snd_told _, gauge_online.2, hwritten, fun hiff => ?_⟩
  rcases hagree.1 hiff with hnone | hbefore
  · exact hcreated hnone
  · exact hbefore gauge_online.2

open Sample in
/-- **The gauge is not always true**: a reconcile finds the database online, the next finds it gone
and creates another, and the gauge still says that the cluster is available. -/
theorem gauge_disagrees : ∃ tr₁ tr₂ action₁ action₂ status,
    (exchanges Sample.config (cluster "a")).Run tr₁ (.ok action₁) ∧
    (exchanges Sample.config (cluster "a")).Run tr₂ (.ok action₂) ∧
    (toldOf (toldOf {} tr₁) tr₂).availability? "db" = some true ∧
    tr₂.filterMap writtenStatus? = [status] ∧ status.readyReason? = some .creating := by
  obtain ⟨hok, _, hgauge, hreason⟩ := gauge_recreated
  obtain ⟨action₁, hrun₁⟩ := run_play_of_isOk gauge_online.1
  obtain ⟨action₂, hrun₂⟩ := run_play_of_isOk hok
  obtain ⟨status, hwritten, hready⟩ : ∃ status,
      (play givesB (cluster "a")).1.filterMap writtenStatus? = [status] ∧
        status.readyReason? = some .creating := by
    obtain ⟨status, hwritten, hready⟩ := List.map_eq_singleton_iff.1 hreason
    exact ⟨status, hwritten, hready⟩
  exact ⟨_, _, action₁, action₂, status, hrun₁, hrun₂, hgauge, hwritten, hready⟩

end ClusterKeeper.Exchange
