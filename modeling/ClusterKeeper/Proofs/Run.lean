import ClusterKeeper.Prog

/-!
# Runs of programs

A run is one way in which a program goes: the questions that it asks, each with the answer it
got, and its result. Nothing restricts the answers, so a fact about every run is a fact about
every script of answers.

* `run_bind_iff`: a run of one program after another is a run of each.
* `Ensures`: what a program ends with, however it is answered.
* `handle_handle`: replacing questions twice is replacing them once.
* `run_play`: every script of answers gives a run.
-/

namespace ClusterKeeper

/-- What is not an error is a result. -/
theorem exists_of_isOk {ε α : Type} {r : Except ε α} (h : r.isOk = true) : ∃ a, r = .ok a := by
  cases r with
  | error e => cases h
  | ok a => exact ⟨a, rfl⟩

/-- A question with the answer it got. -/
abbrev Interface.Event (I : Interface) : Type := (q : I.Question) × I.Answer q

namespace Prog

variable {I J K : Interface} {α β : Type}

/-- With the answers in `es`, the program asks the questions in `es` and ends with `a`. -/
inductive Run : Prog I α → List I.Event → α → Prop
  | done (a : α) : Run (.done a) [] a
  | ask {q : I.Question} {next : I.Answer q → Prog I α} {es : List I.Event} {a : α}
      (answer : I.Answer q) (h : Run (next answer) es a) :
      Run (.ask q next) (⟨q, answer⟩ :: es) a

@[simp] theorem run_done_iff {es : List I.Event} {a b : α} :
    (Prog.done a : Prog I α).Run es b ↔ es = [] ∧ b = a := by
  constructor
  · intro h; cases h; exact ⟨rfl, rfl⟩
  · rintro ⟨rfl, rfl⟩; exact .done _

theorem run_ask_iff {q : I.Question} {next : I.Answer q → Prog I α} {es : List I.Event} {a : α} :
    (Prog.ask q next).Run es a ↔
      ∃ answer es', es = ⟨q, answer⟩ :: es' ∧ (next answer).Run es' a := by
  constructor
  · intro h; cases h with
    | ask answer h => exact ⟨answer, _, rfl, h⟩
  · rintro ⟨answer, es', rfl, h⟩; exact .ask answer h

@[simp] theorem run_query_iff {q : I.Question} {es : List I.Event} {a : I.Answer q} :
    (Prog.query q).Run es a ↔ es = [⟨q, a⟩] := by
  unfold query
  rw [run_ask_iff]
  constructor
  · rintro ⟨answer, es', rfl, h⟩
    obtain ⟨rfl, rfl⟩ := run_done_iff.1 h
    rfl
  · rintro rfl; exact ⟨a, [], rfl, .done a⟩

/-- The answers decide the result. -/
theorem Run.unique {p : Prog I α} {es : List I.Event} {a b : α} (h : p.Run es a)
    (h' : p.Run es b) : b = a := by
  induction h with
  | done a => exact (run_done_iff.1 h').2
  | ask answer _ ih =>
    cases h' with
    | ask _ h' => exact ih h'

/-- **Runs in sequence.** A run of one program after another is a run of the first, and then
one of what its result calls for. -/
theorem run_bind_iff {p : Prog I α} {f : α → Prog I β} {es : List I.Event} {b : β} :
    (p.bind f).Run es b ↔ ∃ es₁ a es₂, p.Run es₁ a ∧ (f a).Run es₂ b ∧ es = es₁ ++ es₂ := by
  induction p generalizing es with
  | done a =>
    constructor
    · intro h; exact ⟨[], a, es, .done a, h, rfl⟩
    · rintro ⟨es₁, a', es₂, h₁, h₂, rfl⟩
      obtain ⟨rfl, rfl⟩ := run_done_iff.1 h₁
      exact h₂
  | ask q next ih =>
    rw [ask_bind, run_ask_iff]
    constructor
    · rintro ⟨answer, es', rfl, h⟩
      obtain ⟨es₁, a, es₂, h₁, h₂, rfl⟩ := (ih answer).1 h
      exact ⟨⟨q, answer⟩ :: es₁, a, es₂, .ask answer h₁, h₂, rfl⟩
    · rintro ⟨es₁, a, es₂, h₁, h₂, rfl⟩
      obtain ⟨answer, es', rfl, h⟩ := run_ask_iff.1 h₁
      exact ⟨answer, es' ++ es₂, rfl, (ih answer).2 ⟨es', a, es₂, h, h₂, rfl⟩⟩

/-! ## What a program ends with -/

/-- However it is answered, the program ends with a result that satisfies `P`. -/
def Ensures (p : Prog I α) (P : α → Prop) : Prop := ∀ es a, p.Run es a → P a

theorem ensures_done {P : α → Prop} {a : α} (h : P a) : (Prog.done a : Prog I α).Ensures P := by
  intro es b hr
  obtain ⟨-, rfl⟩ := run_done_iff.1 hr
  exact h

theorem ensures_query_bind {P : α → Prop} {q : I.Question} {next : I.Answer q → Prog I α}
    (h : ∀ answer, (next answer).Ensures P) : (query q >>= next).Ensures P := by
  intro es a hr
  obtain ⟨answer, es', rfl, h'⟩ := run_ask_iff.1 hr
  exact h answer es' a h'

/-! ## Replacing questions -/

@[simp] theorem handle_done (h : (q : I.Question) → Prog J (I.Answer q)) (a : α) :
    (Prog.done a).handle h = .done a := rfl

@[simp] theorem handle_ask (h : (q : I.Question) → Prog J (I.Answer q)) (q : I.Question)
    (next : I.Answer q → Prog I α) :
    (Prog.ask q next).handle h = (h q).bind fun answer => (next answer).handle h := rfl

@[simp] theorem handle_query (h : (q : I.Question) → Prog J (I.Answer q)) (q : I.Question) :
    (Prog.query q).handle h = h q := bind_done (h q)

/-- Replacing questions twice is replacing them once, by what the first replacement becomes. -/
theorem handle_handle (h : (q : I.Question) → Prog J (I.Answer q))
    (k : (q : J.Question) → Prog K (J.Answer q)) (p : Prog I α) :
    (p.handle h).handle k = p.handle fun q => (h q).handle k := by
  induction p with
  | done a => rfl
  | ask q next ih => rw [handle_ask, handle_ask, handle_bind]; simp only [ih]

/-- The run that a script gives: `script n q` is the answer to question `n`, should it be `q`. -/
def play (script : Nat → (q : I.Question) → I.Answer q) :
    (n : Nat) → Prog I α → List I.Event × α
  | _, .done a => ([], a)
  | n, .ask q next =>
    let (es, a) := play script (n + 1) (next (script n q))
    (⟨q, script n q⟩ :: es, a)

theorem run_play (script : Nat → (q : I.Question) → I.Answer q) (n : Nat) (p : Prog I α) :
    p.Run (Prog.play script n p).1 (Prog.play script n p).2 := by
  induction p generalizing n with
  | done a => exact .done a
  | ask q next ih => exact .ask _ (ih (script n q) (n + 1))

/-- Each question gets its one answer where the script does not count them. -/
theorem answer_of_mem_play (answers : (q : I.Question) → I.Answer q) (n : Nat) (p : Prog I α) :
    ∀ e ∈ (Prog.play (fun _ => answers) n p).1, e.2 = answers e.1 := by
  induction p generalizing n with
  | done a => exact List.forall_mem_nil _
  | ask q next ih => exact List.forall_mem_cons.2 ⟨rfl, ih (answers q) (n + 1)⟩

end Prog

end ClusterKeeper
