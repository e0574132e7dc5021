import ClusterKeeper.Reconcile.Basic
import ClusterKeeper.Proofs.Lifecycle

/-!
# How a part of a reconcile can end

A part of a reconcile makes the exchanges of its steps, up to the first that fails.

* `Ends`: what a part can exchange, and how it ends.
* `ends_bind`: a part after a part, which a failure of the first skips.
* `ends_certain_bind`, `ends_known_bind`, `ends_ofAccess_bind`: a part after one step.
-/

namespace ClusterKeeper

open Prog Exchange

/-- The exchanges that a step of a reconcile stands for. -/
def Steps.exchange (apiUrl : String) (q : Steps.Question) :
    Prog Exchange.interface (Steps.Answer q) :=
  (Steps.carryOut apiUrl q).handle Exchange.carryOut

namespace Attempt

variable {α β : Type} {apiUrl : String}

/-- The part `x` of a reconcile can make the exchanges `es` and end with `r`. -/
def Ends (apiUrl : String) (x : Attempt α) (es : Trace) (r : Except Error α) : Prop :=
  (Prog.handle (I := Steps.interface) (Steps.exchange apiUrl) x.run).Run es r

theorem ends_pure {a : α} {es : Trace} {r : Except Error α} :
    Ends apiUrl (pure a) es r ↔ es = [] ∧ r = .ok a := run_done_iff

/-- **A part after a part.** If the first fails, the second is skipped. -/
theorem ends_bind {x : Attempt α} {f : α → Attempt β} {es : Trace} {r : Except Error β} :
    Ends apiUrl (x >>= f) es r ↔
      (∃ e, Ends apiUrl x es (.error e) ∧ r = .error e) ∨
      ∃ es₁ a es₂, Ends apiUrl x es₁ (.ok a) ∧ Ends apiUrl (f a) es₂ r ∧ es = es₁ ++ es₂ := by
  have hb : Ends apiUrl (x >>= f) es r ↔ (Prog.handle (I := Steps.interface)
      (Steps.exchange apiUrl) (Prog.bind x.run (ExceptT.bindCont f))).Run es r := Iff.rfl
  rw [hb, handle_bind, run_bind_iff]
  constructor
  · rintro ⟨es₁, a, es₂, hx, hf, rfl⟩
    cases a with
    | error e =>
      obtain ⟨rfl, rfl⟩ := run_done_iff.1 hf
      rw [List.append_nil]
      exact Or.inl ⟨e, hx, rfl⟩
    | ok a => exact Or.inr ⟨es₁, a, es₂, hx, hf, rfl⟩
  · rintro (⟨e, hx, rfl⟩ | ⟨es₁, a, es₂, hx, hf, rfl⟩)
    · exact ⟨es, .error e, [], hx, .done _, (List.append_nil es).symm⟩
    · exact ⟨es₁, .ok a, es₂, hx, hf, rfl⟩

theorem ends_certain {p : Prog Steps.interface α} {es : Trace} {r : Except Error α} :
    Ends apiUrl (certain p) es r ↔
      ∃ a, (Prog.handle (I := Steps.interface) (Steps.exchange apiUrl) p).Run es a ∧ r = .ok a := by
  have hb : Ends apiUrl (certain p) es r ↔ (Prog.handle (I := Steps.interface)
      (Steps.exchange apiUrl) (Prog.bind p fun a => .done (.ok a))).Run es r := Iff.rfl
  rw [hb, handle_bind, run_bind_iff]
  constructor
  · rintro ⟨es₁, a, es₂, hp, h, rfl⟩
    obtain ⟨rfl, rfl⟩ := run_done_iff.1 h
    exact ⟨a, by rwa [List.append_nil], rfl⟩
  · rintro ⟨a, hp, rfl⟩
    exact ⟨es, a, [], hp, .done _, (List.append_nil es).symm⟩

/-- A step that cannot fail makes its exchanges, and its answer is what comes of it. -/
theorem ends_certain_query {q : Steps.Question} {es : Trace}
    {r : Except Error (Steps.Answer q)} :
    Ends apiUrl (certain (Prog.query (I := Steps.interface) q)) es r ↔
      ∃ a, Carried (Steps.carryOut apiUrl q) es a ∧ r = .ok a := by
  have hq : Prog.handle (I := Steps.interface) (Steps.exchange apiUrl) (Prog.query q) =
      Steps.exchange apiUrl q := handle_query (I := Steps.interface) _ q
  rw [ends_certain, hq]
  exact Iff.rfl

theorem ends_known {r r' : Except Error α} {es : Trace} :
    Ends apiUrl (known r) es r' ↔ es = [] ∧ r' = r := run_done_iff

theorem ends_connect {c : Cluster} {es : Trace} {r : Except Error Session} :
    Ends apiUrl (connect c) es r ↔ Carried (Lifecycle.connect apiUrl c) es r := by
  have hb : Ends apiUrl (connect c) es r ↔ (Prog.handle (I := Steps.interface)
      (Steps.exchange apiUrl) (Prog.query (Steps.Question.connect c))).Run es r := Iff.rfl
  rw [hb, handle_query]
  exact Iff.rfl

theorem ends_ofAccess {access : Kube.Access α} {es : Trace} {r : Except Error α} :
    Ends apiUrl (ofAccess access) es r ↔ Accessed access es r := by
  have hb : Ends apiUrl (ofAccess access) es r ↔ (Prog.handle (I := Steps.interface)
      (Steps.exchange apiUrl) (Prog.handle (I := Kube.interface) (fun call : Kube.Call =>
        Prog.query (I := Steps.interface) (Steps.Question.kube call)) access)).Run es r := Iff.rfl
  rw [hb, handle_handle]
  have h : (fun call : Kube.Call => Prog.handle (I := Steps.interface) (Steps.exchange apiUrl)
      (Prog.query (I := Steps.interface) (Steps.Question.kube call))) = Exchange.kube :=
    funext fun call =>
      (handle_query (I := Steps.interface) (Steps.exchange apiUrl) (.kube call)).trans
      (handle_query (I := Outside.interface) Exchange.carryOut (.kube call))
  rw [h]
  exact Iff.rfl

/-- **A part after a step that cannot fail.** -/
theorem ends_certain_bind {q : Steps.Question} {f : Steps.Answer q → Attempt β} {es : Trace}
    {r : Except Error β} :
    Ends apiUrl (certain (Prog.query (I := Steps.interface) q) >>= f) es r ↔
      ∃ es₁ a es₂, Carried (Steps.carryOut apiUrl q) es₁ a ∧ Ends apiUrl (f a) es₂ r ∧
        es = es₁ ++ es₂ := by
  rw [ends_bind]
  constructor
  · rintro (⟨e, h, rfl⟩ | ⟨es₁, a, es₂, h, h', rfl⟩)
    · obtain ⟨a, _, ha⟩ := ends_certain_query.1 h
      cases ha
    · obtain ⟨a, hq, ha⟩ := ends_certain_query.1 h
      cases ha
      exact ⟨es₁, a, es₂, hq, h', rfl⟩
  · rintro ⟨es₁, a, es₂, hq, h', rfl⟩
    exact Or.inr ⟨es₁, a, es₂, ends_certain_query.2 ⟨a, hq, rfl⟩, h', rfl⟩

/-- **A part after a known result.** -/
theorem ends_known_bind {r : Except Error α} {f : α → Attempt β} {es : Trace}
    {r' : Except Error β} :
    Ends apiUrl (known r >>= f) es r' ↔
      (∃ e, r = .error e ∧ es = [] ∧ r' = .error e) ∨ ∃ a, r = .ok a ∧ Ends apiUrl (f a) es r' := by
  rw [ends_bind]
  constructor
  · rintro (⟨e, h, rfl⟩ | ⟨es₁, a, es₂, h, h', rfl⟩)
    · obtain ⟨rfl, rfl⟩ := ends_known.1 h
      exact Or.inl ⟨e, rfl, rfl, rfl⟩
    · obtain ⟨rfl, rfl⟩ := ends_known.1 h
      exact Or.inr ⟨a, rfl, h'⟩
  · rintro (⟨e, rfl, rfl, rfl⟩ | ⟨a, rfl, h'⟩)
    · exact Or.inl ⟨e, ends_known.2 ⟨rfl, rfl⟩, rfl⟩
    · exact Or.inr ⟨[], a, es, ends_known.2 ⟨rfl, rfl⟩, h', rfl⟩

/-- **A part after work on the object store.** -/
theorem ends_ofAccess_bind {access : Kube.Access α} {f : α → Attempt β} {es : Trace}
    {r : Except Error β} :
    Ends apiUrl (ofAccess access >>= f) es r ↔
      (∃ e, Accessed access es (.error e) ∧ r = .error e) ∨
      ∃ es₁ a es₂, Accessed access es₁ (.ok a) ∧ Ends apiUrl (f a) es₂ r ∧ es = es₁ ++ es₂ := by
  rw [ends_bind]
  simp only [ends_ofAccess]

/-- **A part after connecting.** -/
theorem ends_connect_bind {c : Cluster} {f : Session → Attempt β} {es : Trace}
    {r : Except Error β} :
    Ends apiUrl (connect c >>= f) es r ↔
      (∃ e, Carried (Lifecycle.connect apiUrl c) es (.error e) ∧ r = .error e) ∨
      ∃ es₁ session es₂, Carried (Lifecycle.connect apiUrl c) es₁ (.ok session) ∧
        Ends apiUrl (f session) es₂ r ∧ es = es₁ ++ es₂ := by
  rw [ends_bind]
  simp only [ends_connect]

theorem ends_record_bind {event : Metrics.Event} {f : Unit → Attempt β} {es : Trace}
    {r : Except Error β} :
    Ends apiUrl (record event >>= f) es r ↔
      ∃ es', Ends apiUrl (f ()) es' r ∧ es = .record event :: es' := by
  unfold record
  rw [ends_certain_bind]
  constructor
  · rintro ⟨es₁, u, es₂, hu, h, rfl⟩
    obtain rfl := carried_record.1 hu
    exact ⟨es₂, h, rfl⟩
  · rintro ⟨es', h, rfl⟩
    exact ⟨[.record event], (), es', carried_record.2 rfl, h, rfl⟩

/-- Renaming the error of a part changes nothing else. -/
theorem ends_adapt {f : Error → Error} {x : Attempt α} {es : Trace} {r : Except Error α} :
    Ends apiUrl (ExceptT.adapt f x) es r ↔ ∃ r', Ends apiUrl x es r' ∧ r = r'.mapError f := by
  have hb : Ends apiUrl (ExceptT.adapt f x) es r ↔ (Prog.handle (I := Steps.interface)
      (Steps.exchange apiUrl) (Prog.bind x.run fun r' => .done (r'.mapError f))).Run es r := by
    exact Iff.rfl
  rw [hb, handle_bind, run_bind_iff]
  constructor
  · rintro ⟨es₁, a, es₂, hx, h, rfl⟩
    obtain ⟨rfl, rfl⟩ := run_done_iff.1 h
    exact ⟨a, by rwa [List.append_nil], rfl⟩
  · rintro ⟨a, hx, rfl⟩
    exact ⟨es, a, [], hx, .done _, (List.append_nil es).symm⟩

end Attempt

end ClusterKeeper
