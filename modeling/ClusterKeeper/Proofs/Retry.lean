import Mathlib.Data.ENat.Lattice
import ClusterKeeper.Proofs.Run
import ClusterKeeper.Reconcile.Retry

/-!
# How often something is tried

An operation that is tried again is called up to its first success, but no more often than there
are attempts, and once in any case. A run of it is one call after another with a pause between two,
so the calls can be counted in it.

* `firstSuccess`: the place of the first success in a sequence of outcomes.
* `Rounds`: what the first calls and the pauses between them ask, one after another.
* `run_retry_succ_iff`: the first of several attempts, and what follows it.
* `run_retry_of_rounds`, `rounds_of_run_retry`: the runs are such calls, as many as are due, and end
  with the last.
* `retry_exact`: every sequence of outcomes has such a run, and which of the outcomes it ends with.
-/

namespace ClusterKeeper.Prog

variable {I : Interface} {ε α : Type}

/-! ## The first success -/

/-- The place of the first success among the outcomes, counted from one: infinite if there is
none. -/
noncomputable def firstSuccess (outcome : ℕ → Except ε α) : ℕ∞ :=
  ⨅ (j : ℕ) (_ : (outcome j).isOk = true), ((j + 1 : ℕ) : ℕ∞)

variable {outcome : ℕ → Except ε α} {j n : ℕ}

theorem firstSuccess_le (h : (outcome j).isOk = true) :
    firstSuccess outcome ≤ ((j + 1 : ℕ) : ℕ∞) := iInf₂_le j h

/-- What stands at the place of the first success is a success. -/
theorem isOk_of_firstSuccess (h : ((j + 1 : ℕ) : ℕ∞) = firstSuccess outcome) :
    (outcome j).isOk = true := by
  by_contra hnot
  -- then every success stands further than that
  have hle : ((j + 1 + 1 : ℕ) : ℕ∞) ≤ firstSuccess outcome := by
    refine le_iInf₂ fun i hi => ?_
    have hij := firstSuccess_le hi
    rw [← h, Nat.cast_le] at hij
    have hne : i ≠ j := by
      rintro rfl
      exact hnot hi
    rw [Nat.cast_le]
    omega
  rw [← h, Nat.cast_le] at hle
  omega

theorem one_le_firstSuccess : 1 ≤ firstSuccess outcome :=
  le_iInf₂ fun j _ => by exact_mod_cast Nat.le_add_left 1 j

theorem firstSuccess_of_ok {a : α} (h : outcome 0 = .ok a) : firstSuccess outcome = 1 := by
  have hok : (outcome 0).isOk = true := by rw [h]; rfl
  have hle := firstSuccess_le hok
  exact le_antisymm (by exact_mod_cast hle) one_le_firstSuccess

/-- After a failure the first success is one place further than among the outcomes to come. -/
theorem firstSuccess_of_error {e : ε} (h : outcome 0 = .error e) :
    firstSuccess outcome = firstSuccess (fun j => outcome (j + 1)) + 1 := by
  have hnext : firstSuccess (fun j => outcome (j + 1)) + 1 =
      ⨅ (j : ℕ) (_ : (outcome (j + 1)).isOk = true), ((j + 1 + 1 : ℕ) : ℕ∞) := by
    unfold firstSuccess
    rw [ENat.iInf₂_add]
    push_cast
    rfl
  rw [hnext]
  apply le_antisymm
  · exact le_iInf₂ fun j hj => firstSuccess_le hj
  · refine le_iInf₂ fun j hj => ?_
    cases j with
    | zero =>
      rw [h] at hj
      cases hj
    | succ j => exact iInf₂_le j hj

/-- A sequence with one more element in front. -/
def prepend {β : Type} (b : β) (f : ℕ → β) : ℕ → β
  | 0 => b
  | j + 1 => f j

/-- How many calls are due: up to the first success, if there are so many attempts, and one at
least. -/
noncomputable def callsDue (outcome : ℕ → Except ε α) (n : ℕ) : ℕ∞ :=
  min (firstSuccess outcome) ((max n 1 : ℕ) : ℕ∞)

theorem callsDue_of_le_one (hn : n ≤ 1) : callsDue outcome n = 1 := by
  unfold callsDue
  rw [Nat.max_eq_right hn]
  exact min_eq_right one_le_firstSuccess

theorem callsDue_of_ok {a : α} (h : outcome 0 = .ok a) : callsDue outcome n = 1 := by
  unfold callsDue
  rw [firstSuccess_of_ok h]
  exact min_eq_left (by exact_mod_cast Nat.le_max_right n 1)

theorem callsDue_of_error {e : ε} (h : outcome 0 = .error e) :
    callsDue outcome (n + 2) = callsDue (fun j => outcome (j + 1)) (n + 1) + 1 := by
  have hmax : max (n + 2) 1 = max (n + 1) 1 + 1 := by omega
  unfold callsDue
  rw [firstSuccess_of_error h, hmax, Nat.cast_add, Nat.cast_one, min_add_add_right]

/-- There is an end to the calls. -/
theorem exists_callsDue (outcome : ℕ → Except ε α) (n : ℕ) :
    ∃ k : ℕ, ((k + 1 : ℕ) : ℕ∞) = callsDue outcome n := by
  have hle : callsDue outcome n ≤ ((max n 1 : ℕ) : ℕ∞) := min_le_right _ _
  obtain ⟨m, hm⟩ := ENat.ne_top_iff_exists.1 (ne_top_of_le_ne_top (ENat.natCast_ne_top _) hle)
  have hpos : 1 ≤ callsDue outcome n :=
    le_min one_le_firstSuccess (by exact_mod_cast Nat.le_max_right n 1)
  rw [← hm] at hpos ⊢
  obtain ⟨k, rfl⟩ := Nat.exists_eq_add_of_le' (show 1 ≤ m by exact_mod_cast hpos)
  exact ⟨k, rfl⟩

/-! ## Calls and pauses -/

/-- What `k + 1` calls ask one after another, with a pause between two. -/
def rounds (call rest : ℕ → List I.Event) : ℕ → List I.Event
  | 0 => call 0
  | k + 1 => rounds call rest k ++ (rest k ++ call (k + 1))

/-- **The first `k + 1` calls**: each is one of the operation and has its outcome, and the pauses
between them are such. -/
structure Rounds (pause : Prog I Unit) (op : Prog I (Except ε α)) (outcome : ℕ → Except ε α)
    (call rest : ℕ → List I.Event) (k : ℕ) : Prop where
  called : ∀ j ≤ k, op.Run (call j) (outcome j)
  paused : ∀ j < k, pause.Run (rest j) ()

variable {pause : Prog I Unit} {op : Prog I (Except ε α)} {call rest : ℕ → List I.Event} {k : ℕ}
  {es : List I.Event} {r : Except ε α}

theorem rounds_succ (call rest : ℕ → List I.Event) (k : ℕ) : rounds call rest (k + 1) =
    call 0 ++ (rest 0 ++ rounds (fun j => call (j + 1)) (fun j => rest (j + 1)) k) := by
  induction k with
  | zero => rfl
  | succ k ih =>
    calc rounds call rest (k + 1 + 1)
        = rounds call rest (k + 1) ++ (rest (k + 1) ++ call (k + 1 + 1)) := rfl
      _ = call 0 ++ (rest 0 ++ (rounds (fun j => call (j + 1)) (fun j => rest (j + 1)) k ++
            (rest (k + 1) ++ call (k + 1 + 1)))) := by
          rw [ih, List.append_assoc, List.append_assoc]

/-- One call is all of them if no more are due. -/
theorem exists_rounds_of_run (h : op.Run es r) (hdue : callsDue (fun _ => r) n = 1) :
    ∃ (outcome : ℕ → Except ε α) (call rest : ℕ → List I.Event) (k : ℕ),
      ((k + 1 : ℕ) : ℕ∞) = callsDue outcome n ∧ Rounds pause op outcome call rest k ∧
        es = rounds call rest k ∧ r = outcome k :=
  ⟨fun _ => r, fun _ => es, fun _ => [], 0, hdue.symm,
    ⟨fun _ _ => h, fun j hj => absurd hj (Nat.not_lt_zero j)⟩, rfl, rfl⟩

/-- The first call, and those that follow it. -/
theorem rounds_succ_iff : Rounds pause op outcome call rest (k + 1) ↔
    op.Run (call 0) (outcome 0) ∧ pause.Run (rest 0) () ∧
      Rounds pause op (fun j => outcome (j + 1)) (fun j => call (j + 1)) (fun j => rest (j + 1))
        k := by
  constructor
  · intro h
    exact ⟨h.called 0 (Nat.zero_le _), h.paused 0 (Nat.succ_pos k),
      fun j hj => h.called (j + 1) (Nat.succ_le_succ hj),
      fun j hj => h.paused (j + 1) (Nat.succ_lt_succ hj)⟩
  · rintro ⟨hcall, hrest, h⟩
    constructor
    · intro j hj
      cases j with
      | zero => exact hcall
      | succ j => exact h.called j (Nat.le_of_succ_le_succ hj)
    · intro j hj
      cases j with
      | zero => exact hrest
      | succ j => exact h.paused j (Nat.lt_of_succ_lt_succ hj)

/-! ## Trying again -/

/-- **The first of several attempts** is the last if it succeeds, and a pause and the other attempts
follow it if not. -/
theorem run_retry_succ_iff : (retry pause op (n + 2)).Run es r ↔
    (∃ a, op.Run es (.ok a) ∧ r = .ok a) ∨
      ∃ e es₁ es₂ es₃, op.Run es₁ (.error e) ∧ pause.Run es₂ () ∧
        (retry pause op (n + 1)).Run es₃ r ∧ es = es₁ ++ (es₂ ++ es₃) := by
  rw [retry, run_bind_iff]
  constructor
  · rintro ⟨es₁, x, es', hop, h, rfl⟩
    cases x with
    | ok a =>
      obtain ⟨rfl, rfl⟩ := run_done_iff.1 h
      rw [List.append_nil]
      exact .inl ⟨a, hop, rfl⟩
    | error e =>
      obtain ⟨es₂, _, es₃, hpause, hretry, rfl⟩ := run_bind_iff.1 h
      exact .inr ⟨e, es₁, es₂, es₃, hop, hpause, hretry, rfl⟩
  · rintro (⟨a, hop, rfl⟩ | ⟨e, es₁, es₂, es₃, hop, hpause, hretry, rfl⟩)
    · exact ⟨es, .ok a, [], hop, .done _, (List.append_nil es).symm⟩
    · exact ⟨es₁, .error e, es₂ ++ es₃, hop,
        run_bind_iff.2 ⟨es₂, (), es₃, hpause, hretry, rfl⟩, rfl⟩

/-- At most one attempt is one call. -/
theorem retry_of_le_one (hn : n ≤ 1) : retry pause op n = op := by
  obtain rfl | rfl := Nat.le_one_iff_eq_zero_or_eq_one.1 hn
  · rfl
  · rfl

/-- **As many calls as are due** are a run, which ends with the last outcome. -/
theorem run_retry_of_rounds (hdue : ((k + 1 : ℕ) : ℕ∞) = callsDue outcome n)
    (h : Rounds pause op outcome call rest k) :
    (retry pause op n).Run (rounds call rest k) (outcome k) := by
  have hzero {k : ℕ} (h : ((k + 1 : ℕ) : ℕ∞) = 1) : k = 0 := by
    have hk : k + 1 = 1 := by exact_mod_cast h
    omega
  induction n using retry.induct generalizing outcome call rest k with
  | case1 =>
    obtain rfl := hzero (hdue.trans (callsDue_of_le_one (Nat.zero_le 1)))
    exact h.called 0 le_rfl
  | case2 =>
    obtain rfl := hzero (hdue.trans (callsDue_of_le_one le_rfl))
    exact h.called 0 le_rfl
  | case3 n ih =>
    rw [run_retry_succ_iff]
    cases hfirst : outcome 0 with
    | ok a =>
      obtain rfl := hzero (hdue.trans (callsDue_of_ok hfirst))
      have hop := h.called 0 le_rfl
      rw [hfirst] at hop ⊢
      exact .inl ⟨a, hop, rfl⟩
    | error e =>
      obtain ⟨k', hk'⟩ := exists_callsDue (fun j => outcome (j + 1)) (n + 1)
      rw [callsDue_of_error hfirst, ← hk'] at hdue
      obtain rfl : k = k' + 1 := by
        have hk : k + 1 = k' + 1 + 1 := by exact_mod_cast hdue
        omega
      obtain ⟨hop, hpause, hmore⟩ := rounds_succ_iff.1 h
      rw [hfirst] at hop
      have hothers : (retry pause op (n + 1)).Run
          (rounds (fun j => call (j + 1)) (fun j => rest (j + 1)) k') (outcome (k' + 1)) :=
        @ih (fun j => outcome (j + 1)) _ _ _ hk' hmore
      exact .inr ⟨e, _, _, _, hop, hpause, hothers, rounds_succ call rest k'⟩

/-- **Every run** is as many calls as are due. -/
theorem rounds_of_run_retry (h : (retry pause op n).Run es r) :
    ∃ (outcome : ℕ → Except ε α) (call rest : ℕ → List I.Event) (k : ℕ),
      ((k + 1 : ℕ) : ℕ∞) = callsDue outcome n ∧ Rounds pause op outcome call rest k ∧
        es = rounds call rest k ∧ r = outcome k := by
  induction n using retry.induct generalizing es with
  | case1 =>
    rw [retry_of_le_one (Nat.zero_le 1)] at h
    exact exists_rounds_of_run h (callsDue_of_le_one (Nat.zero_le 1))
  | case2 =>
    rw [retry_of_le_one le_rfl] at h
    exact exists_rounds_of_run h (callsDue_of_le_one le_rfl)
  | case3 n ih =>
    rcases run_retry_succ_iff.1 h with
      ⟨a, hop, rfl⟩ | ⟨e, es₁, es₂, es₃, hop, hpause, hretry, rfl⟩
    · have hfirst : (fun _ : ℕ => (.ok a : Except ε α)) 0 = .ok a := rfl
      exact exists_rounds_of_run hop (callsDue_of_ok hfirst)
    · -- one more failure, in front of the calls that follow it
      obtain ⟨outcome, call, rest, k, hdue, hrounds, rfl, rfl⟩ := ih hretry
      have hfirst : prepend (.error e) outcome 0 = .error e := rfl
      refine ⟨prepend (.error e) outcome, prepend es₁ call, prepend es₂ rest, k + 1, ?_,
        rounds_succ_iff.2 ⟨hop, hpause, hrounds⟩,
        (rounds_succ (prepend es₁ call) (prepend es₂ rest) k).symm, rfl⟩
      calc ((k + 1 + 1 : ℕ) : ℕ∞)
          = callsDue outcome (n + 1) + 1 := by rw [← hdue]; rfl
        _ = callsDue (prepend (.error e) outcome) (n + 2) := (callsDue_of_error hfirst).symm

/-- **An operation is tried as often as it is due.** For every sequence of outcomes of the
operation there is an end: after `k + 1` calls, which is the lesser of the place of the first
success and the number of attempts, if there are any, and one if there are none. A pause stands
between two of these calls, and nothing else. The result is the first success, if it is among these
calls, and the error of the last call otherwise. And nothing else can happen: every run is such. -/
theorem retry_exact (pause : Prog I Unit) (op : Prog I (Except ε α)) (n : ℕ) :
    (∀ (outcome : ℕ → Except ε α) (call rest : ℕ → List I.Event),
      (∀ j, op.Run (call j) (outcome j)) → (∀ j, pause.Run (rest j) ()) →
        ∃ k : ℕ, ((k + 1 : ℕ) : ℕ∞) = min (firstSuccess outcome) ((max n 1 : ℕ) : ℕ∞) ∧
          (retry pause op n).Run (rounds call rest k) (outcome k) ∧
          (∀ j ≤ k, ((j + 1 : ℕ) : ℕ∞) = firstSuccess outcome →
            ∃ a, outcome j = .ok a ∧ outcome k = .ok a) ∧
          (((k + 1 : ℕ) : ℕ∞) < firstSuccess outcome → ∃ e, outcome k = .error e)) ∧
    ∀ es r, (retry pause op n).Run es r →
      ∃ (outcome : ℕ → Except ε α) (call rest : ℕ → List I.Event) (k : ℕ),
        ((k + 1 : ℕ) : ℕ∞) = min (firstSuccess outcome) ((max n 1 : ℕ) : ℕ∞) ∧
          Rounds pause op outcome call rest k ∧ es = rounds call rest k ∧ r = outcome k := by
  refine ⟨fun outcome call rest hcall hrest => ?_, fun es r => rounds_of_run_retry⟩
  obtain ⟨k, hk⟩ := exists_callsDue outcome n
  refine ⟨k, hk, run_retry_of_rounds hk ⟨fun j _ => hcall j, fun j _ => hrest j⟩, ?_, ?_⟩
  · intro j hj hfirst
    have hle : ((k + 1 : ℕ) : ℕ∞) ≤ ((j + 1 : ℕ) : ℕ∞) := by
      rw [hk, hfirst]
      exact min_le_left _ _
    rw [Nat.cast_le] at hle
    obtain rfl : j = k := by omega
    obtain ⟨a, ha⟩ := exists_of_isOk (isOk_of_firstSuccess hfirst)
    exact ⟨a, ha, ha⟩
  · intro hlt
    cases hlast : outcome k with
    | ok a =>
      have hok : (outcome k).isOk = true := by rw [hlast]; rfl
      exact absurd hlt (not_lt.2 (firstSuccess_le hok))
    | error e => exact ⟨e, rfl⟩

namespace Sample

/-- What a sample asks. -/
inductive Question where
  | attempt
  | wait

/-- The answers: an attempt succeeds with a number or fails with a text. -/
@[reducible] def Answer : Question → Type
  | .attempt => Except String ℕ
  | .wait => Unit

/-- The interface of the sample. -/
@[reducible] def interface : Interface := ⟨Question, Answer⟩

/-- Two failures, then successes. -/
def later : ℕ → Except String ℕ
  | 0 => .error "a"
  | 1 => .error "b"
  | _ => .ok 7

theorem eq_of_due_later {k n : ℕ}
    (h : ((k + 1 : ℕ) : ℕ∞) = min (firstSuccess later) ((max n 1 : ℕ) : ℕ∞)) :
    k + 1 = min 3 (max n 1) := by
  have hfirst : firstSuccess later = ((3 : ℕ) : ℕ∞) := by
    rw [firstSuccess_of_error (e := "a") rfl, firstSuccess_of_error (e := "b") rfl,
      firstSuccess_of_ok (a := 7) rfl]
    rfl
  rw [hfirst, ← Nat.mono_cast.map_min] at h
  exact Nat.cast_inj.1 h

end Sample

open Sample in
/-- What succeeds in the third attempt succeeds if there are four, and fails with the second error
if there are two. -/
theorem retry_exact_third :
    (retry (query (I := Sample.interface) .wait) (query (I := Sample.interface) .attempt) 4).Run
      [⟨.attempt, .error "a"⟩, ⟨.wait, ()⟩, ⟨.attempt, .error "b"⟩, ⟨.wait, ()⟩, ⟨.attempt, .ok 7⟩]
      (.ok 7) ∧
    (retry (query (I := Sample.interface) .wait) (query (I := Sample.interface) .attempt) 2).Run
      [⟨.attempt, .error "a"⟩, ⟨.wait, ()⟩, ⟨.attempt, .error "b"⟩] (.error "b") := by
  have hends (n : ℕ) := (retry_exact (query (I := Sample.interface) .wait)
    (query (I := Sample.interface) .attempt) n).1 later (fun j => [⟨.attempt, later j⟩])
    (fun _ => [⟨.wait, ()⟩]) (fun j => run_query_iff.2 rfl) (fun _ => run_query_iff.2 rfl)
  constructor
  · obtain ⟨k, hk, hrun, -⟩ := hends 4
    obtain rfl : k = 2 := by
      have h := eq_of_due_later hk
      omega
    exact hrun
  · obtain ⟨k, hk, hrun, -⟩ := hends 2
    obtain rfl : k = 1 := by
      have h := eq_of_due_later hk
      omega
    exact hrun

end ClusterKeeper.Prog
