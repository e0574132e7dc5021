import ClusterKeeper.Proofs.Conditions
import Mathlib.Data.List.DropRight
import Mathlib.Data.List.Induction

/-!
# The Ready condition as a history

Each observation of a database that says something of its life is kept in the Ready condition. Read
after any number of them, the condition says what the last of these said, and since when all of
them have said the same.

* `saying`: what observations say, those that say nothing left out.
* `LastBlock`: the last block of one reason, and when it begins. There is only one.
* `readyConditions_settled`, `readyConditions_followed`: the Ready conditions after one observation
  and after any number.
* `lastBlock_snoc`, `setReadies_eq`: the block that they show, after one more and after all.
* `ready_tells_history`: so the Ready condition is the last block.
-/

namespace ClusterKeeper

variable {told : List (Reason × Instant)} {r r' : Reason} {t t' : Instant} {c : Cluster}

/-! ## What databases say -/

/-- What a database can say of its life, and the reason that this calls for. -/
def stages : List (String × Reason) :=
  [("creating", .creating), ("online", .available), ("forking", .unavailable)]

theorem Reason.ofRemoteStatus?_eq (status : String) :
    ofRemoteStatus? status = stages.lookup status := by
  unfold ofRemoteStatus? stages
  split_ifs with hcreating honline hforking
  · simp [hcreating]
  · simp [List.lookup_cons, honline]
  · simp [List.lookup_cons, hforking]
  · rw [eq_comm, List.lookup_eq_none_iff]
    simp [hcreating, honline, hforking]

theorem isSome_lookup_stages (status : String) : (stages.lookup status).isSome = true ↔
    status = "creating" ∨ status = "online" ∨ status = "forking" := by
  rw [← Reason.ofRemoteStatus?_eq, Reason.ofRemoteStatus?]
  split_ifs with hcreating honline hforking
  · simp [hcreating]
  · simp [honline]
  · simp [hforking]
  · simp [hcreating, honline, hforking]

/-- What is said, and when. -/
def saying (steps : List (Database × Instant)) : List (Reason × Instant) :=
  steps.filterMap fun s => (stages.lookup s.1.status).map fun r => (r, s.2)

theorem saying_cons (s : Database × Instant) (steps : List (Database × Instant)) :
    saying (s :: steps) =
      (stages.lookup s.1.status).elim (saying steps) fun r => (r, s.2) :: saying steps := by
  unfold saying
  rw [List.filterMap_cons]
  cases stages.lookup s.1.status with
  | none => rfl
  | some r => rfl

theorem saying_ne_nil_iff (steps : List (Database × Instant)) : saying steps ≠ [] ↔
    ∃ s ∈ steps, s.1.status = "creating" ∨ s.1.status = "online" ∨ s.1.status = "forking" := by
  unfold saying
  rw [Ne, List.filterMap_eq_nil_iff]
  push Not
  refine exists_congr fun s => and_congr_right fun _ => ?_
  rw [← isSome_lookup_stages, Ne, Option.map_eq_none_iff, Option.isSome_iff_ne_none]

/-! ## Blocks -/

/-- **The last block**: the last of what is told are the same reason, told first at an instant, and
what is told before, if anything, is another. -/
def LastBlock (told : List (Reason × Instant)) (r : Reason) (t : Instant) : Prop :=
  ∃ before block, told = before ++ (r, t) :: block ∧ (∀ m ∈ block, m.1 = r) ∧
    ∀ m ∈ before.getLast?, m.1 ≠ r

/-- **One more** joins the block if it has its reason, and begins one if not. -/
theorem lastBlock_snoc (h : LastBlock told r t) (t' : Instant) :
    LastBlock (told ++ [(r', t')]) r' (if r = r' then t else t') := by
  obtain ⟨before, block, rfl, hblock, hbefore⟩ := h
  by_cases hr : r = r'
  · subst hr
    rw [if_pos rfl]
    refine ⟨before, block ++ [(r, t')], by simp, ?_, hbefore⟩
    rw [List.forall_mem_append, List.forall_mem_singleton]
    exact ⟨hblock, rfl⟩
  · rw [if_neg hr]
    refine ⟨before ++ (r, t) :: block, [], rfl, by simp, fun m hm => ?_⟩
    -- all that comes before ends with the block of the other reason
    have hlast : m ∈ (r, t) :: block := by
      rw [List.getLast?_append_of_ne_nil _ (List.cons_ne_nil _ _)] at hm
      exact List.mem_of_getLast? hm
    have hreason : m.1 = r := (List.mem_cons.1 hlast).elim (congrArg Prod.fst) (hblock m)
    rw [hreason]
    exact hr

/-- What is told last is the reason of the last block. -/
theorem getLast?_of_lastBlock (h : LastBlock told r t) : told.getLast?.map Prod.fst = some r := by
  obtain ⟨before, block, rfl, hblock, -⟩ := h
  have hmem := List.getLast_mem (List.cons_ne_nil (r, t) block)
  have hreason := (List.mem_cons.1 hmem).elim (congrArg Prod.fst) (hblock _)
  rw [List.getLast?_append_of_ne_nil _ (List.cons_ne_nil _ _),
    List.getLast?_eq_some_getLast (List.cons_ne_nil _ _), Option.map_some, hreason]

/-- What comes before the last block is all up to the last other reason. -/
theorem rdropWhile_of_block {before block : List (Reason × Instant)} (hblock : ∀ m ∈ block, m.1 = r)
    (hbefore : ∀ m ∈ before.getLast?, m.1 ≠ r) :
    (before ++ (r, t) :: block).rdropWhile (fun m => m.1 = r) = before := by
  have hall : ∀ m ∈ ((r, t) :: block).reverse, (decide (m.1 = r)) = true := by
    intro m hm
    rcases List.mem_cons.1 (List.mem_reverse.1 hm) with rfl | hm
    · exact decide_eq_true rfl
    · exact decide_eq_true (hblock m hm)
  have hdrop : (before ++ (r, t) :: block).rdropWhile (fun m => m.1 = r) =
      before.rdropWhile fun m => m.1 = r := by
    rw [List.rdropWhile, List.reverse_append, List.dropWhile_append_of_pos hall, List.rdropWhile]
  rw [hdrop, List.rdropWhile_eq_self_iff]
  intro hne
  rw [decide_eq_true_iff]
  exact hbefore _ (List.getLast?_eq_some_getLast hne)

/-- There is only one last block. -/
theorem lastBlock_unique (h : LastBlock told r t) (h' : LastBlock told r' t') :
    r = r' ∧ t = t' := by
  have hlast := (getLast?_of_lastBlock h).symm.trans (getLast?_of_lastBlock h')
  have hr : r = r' := Option.some.inj hlast
  subst hr
  obtain ⟨before, block, rfl, hblock, hbefore⟩ := h
  obtain ⟨before', block', heq, hblock', hbefore'⟩ := h'
  -- both blocks begin after the last of what is told with another reason
  have hsame : before = before' := by
    rw [← rdropWhile_of_block hblock hbefore, heq, rdropWhile_of_block hblock' hbefore']
  subst hsame
  have hfirst := (List.cons.inj (List.append_cancel_left heq)).1
  exact ⟨rfl, congrArg Prod.snd hfirst⟩

/-! ## The Ready conditions -/

/-- The Ready conditions of a cluster. -/
def Cluster.readyConditions (c : Cluster) : List Condition :=
  c.conditions.filter fun d => d.type = Condition.readyType

/-- A cluster whose databases are observed, each at its instant. -/
def Cluster.followed (c : Cluster) (steps : List (Database × Instant)) : Cluster :=
  steps.foldl (fun c s => (c.observed s.1).settleStatus s.2) c

/-- Set the Ready conditions that are called for, in turn. -/
def setReadies (ds : List Condition) (told : List (Reason × Instant)) : List Condition :=
  told.foldl (fun ds m => (m.1.condition m.2).put ds) ds

/-- **Step.** An observation sets the Ready condition that it calls for among the others. -/
theorem readyConditions_settled (c : Cluster) (db : Database) (now : Instant) :
    ((c.observed db).settleStatus now).readyConditions =
      (stages.lookup db.status).elim c.readyConditions
        fun r => (r.condition now).put c.readyConditions := by
  unfold Cluster.readyConditions
  rw [Cluster.conditions_settled, Reason.ofRemoteStatus?_eq]
  cases stages.lookup db.status with
  | none => rfl
  | some r => exact Condition.filter_put (r.condition now) c.conditions

theorem readyConditions_followed (c : Cluster) (steps : List (Database × Instant)) :
    (c.followed steps).readyConditions = setReadies c.readyConditions (saying steps) := by
  induction steps generalizing c with
  | nil => rfl
  | cons s steps ih =>
    rw [saying_cons, Cluster.followed, List.foldl_cons]
    have hlater := ih ((c.observed s.1).settleStatus s.2)
    rw [readyConditions_settled] at hlater
    refine Eq.trans hlater ?_
    cases stages.lookup s.1.status with
    | none => rfl
    | some r => rfl

theorem Reason.text_inj : r.text = r'.text ↔ r = r' := by
  constructor
  · intro h
    have hparse := congrArg parse? h
    rw [parse?_text, parse?_text] at hparse
    exact Option.some.inj hparse
  · rintro rfl
    rfl

/-- Setting a Ready condition where there is one keeps it if the reason is the same. -/
theorem put_singleton (r r' : Reason) (t t' : Instant) :
    (r'.condition t').put [r.condition t] = [r'.condition (if r = r' then t else t')] := by
  have htype : (r.condition t).type = (r'.condition t').type := rfl
  rw [Condition.put, if_pos htype]
  by_cases hr : r = r'
  · subst hr
    rw [if_pos rfl, if_neg]
    rintro (h | h)
    · exact h rfl
    · exact h rfl
  · have hreason : (r.condition t).reason ≠ (r'.condition t').reason :=
      fun h => hr (Reason.text_inj.1 (Option.some.inj h))
    rw [if_pos (.inr hreason), if_neg hr]

/-- **Run.** The one Ready condition is the last block of what was told. -/
theorem setReadies_eq (told : List (Reason × Instant)) : told = [] ∧ setReadies [] told = [] ∨
    ∃ r t, LastBlock told r t ∧ setReadies [] told = [r.condition t] := by
  -- the last told comes last, so the induction is on the end of the list
  induction told using List.reverseRecOn with
  | nil => exact .inl ⟨rfl, rfl⟩
  | append_singleton told m ih =>
    obtain ⟨r', t'⟩ := m
    have hstep : setReadies [] (told ++ [(r', t')]) =
        (r'.condition t').put (setReadies [] told) := by
      rw [setReadies, List.foldl_append]
      rfl
    rw [hstep]
    rcases ih with ⟨rfl, hnone⟩ | ⟨r, t, hlast, hone⟩
    · rw [hnone]
      exact .inr ⟨r', t', ⟨[], [], rfl, by simp, by simp⟩, rfl⟩
    · rw [hone, put_singleton]
      exact .inr ⟨r', _, lastBlock_snoc hlast t', rfl⟩

/-- **The Ready condition is the last block of the history.** Of a cluster that had none, there is
one as soon as a database was creating, online or forking, and it is the only one. It has the
reason that the last such database calls for, holds only if that is available, and has changed last
when the first of the last ones that called for this reason was observed. What else databases say
does not count. -/
theorem ready_tells_history (h : ∀ d ∈ c.conditions, d.type ≠ Condition.readyType)
    (steps : List (Database × Instant)) :
    ((∃ d ∈ (c.followed steps).conditions, d.type = Condition.readyType) ↔
      ∃ s ∈ steps, s.1.status = "creating" ∨ s.1.status = "online" ∨ s.1.status = "forking") ∧
    ∀ d ∈ (c.followed steps).conditions, d.type = Condition.readyType →
      (c.followed steps).conditions.filter (fun d => d.type = Condition.readyType) = [d] ∧
      ∃ r t, (saying steps).getLast?.map Prod.fst = some r ∧ LastBlock (saying steps) r t ∧
        d.reason = some r.text ∧ d.status = (if r = .available then "True" else "False") ∧
        d.lastTransitionTime = t := by
  have hstart : c.readyConditions = [] :=
    List.filter_eq_nil_iff.2 fun d hd => by simpa using h d hd
  have hrun := readyConditions_followed c steps
  rw [hstart] at hrun
  have hmem {d : Condition} : d ∈ (c.followed steps).readyConditions ↔
      d ∈ (c.followed steps).conditions ∧ d.type = Condition.readyType := by
    rw [Cluster.readyConditions, List.mem_filter, decide_eq_true_iff]
  rcases setReadies_eq (saying steps) with ⟨hnil, hnone⟩ | ⟨r, t, hlast, hone⟩
  · rw [hnone] at hrun
    have hnever (d : Condition) (hd : d ∈ (c.followed steps).conditions)
        (hready : d.type = Condition.readyType) : False :=
      List.not_mem_nil (hrun ▸ hmem.2 ⟨hd, hready⟩)
    refine ⟨iff_of_false ?_ ?_, fun d hd hready => (hnever d hd hready).elim⟩
    · rintro ⟨d, hd, hready⟩
      exact hnever d hd hready
    · rw [← saying_ne_nil_iff]
      exact not_not_intro hnil
  · rw [hone] at hrun
    have hlast' := getLast?_of_lastBlock hlast
    refine ⟨iff_of_true ?_ ?_, fun d hd hready => ?_⟩
    · exact ⟨r.condition t, hmem.1 (hrun ▸ List.mem_singleton_self _)⟩
    · rw [← saying_ne_nil_iff]
      rintro hnil
      rw [hnil] at hlast'
      cases hlast'
    · have hd' : d = r.condition t := List.mem_singleton.1 (hrun ▸ hmem.2 ⟨hd, hready⟩)
      subst hd'
      exact ⟨hrun, r, t, hlast', hlast, rfl, rfl, rfl⟩

namespace Condition.Sample

/-- A database that is created, changed and online again. -/
def grown : List (Database × Instant) :=
  [({ id := "a", status := "creating" }, second 0), ({ id := "a", status := "online" }, second 1),
    ({ id := "a", status := "resizing" }, second 2), ({ id := "a", status := "online" }, second 3)]

/-- A cluster that nothing is said of. -/
def fresh : Cluster where
  metadata := {}
  spec := { forProvider := { numNodes := 1, size := "s", region := "r" } }

end Condition.Sample

open Condition.Sample in
/-- A database that was changed meanwhile is available since it first was online. -/
theorem ready_tells_history_grown : ∃ d, d.type = Condition.readyType ∧
    d ∈ (fresh.followed grown).conditions ∧ d.reason = some "Available" ∧ d.status = "True" ∧
      d.lastTransitionTime = second 1 := by
  have hfresh : ∀ d ∈ fresh.conditions, d.type ≠ Condition.readyType := by decide
  obtain ⟨hready, hsays⟩ := ready_tells_history hfresh grown
  obtain ⟨d, hd, htype⟩ := hready.2 ⟨_, List.mem_cons_self, .inl rfl⟩
  obtain ⟨-, r, t, -, hblock, hreason, hstatus, htime⟩ := hsays d hd htype
  have hblock' : LastBlock (saying grown) .available (second 1) :=
    ⟨[(.creating, second 0)], [(.available, second 3)], by decide, by decide, by decide⟩
  obtain ⟨rfl, rfl⟩ := lastBlock_unique hblock' hblock
  exact ⟨d, htype, hd, hreason, hstatus, htime⟩

end ClusterKeeper
