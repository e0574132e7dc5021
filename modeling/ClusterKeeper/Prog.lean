/-!
# Programs that ask

A program is a tree: it is done, or it asks the outside a question and goes on
with the answer, whatever that is. Nothing is performed here; whoever runs a
program supplies the answers.

* `Prog.handle`: replace every question by a program over another interface.
* `Prog.runM`: run a program with answers from a monad.
* `Prog.bind_assoc`, `Prog.handle_bind`: sequencing is associative, and
  replacing questions respects it.
-/

namespace ClusterKeeper

/-- What a program may ask, and the type of the answer to each question. -/
structure Interface where
  Question : Type
  Answer : Question → Type

/-- A program over the interface `I` with a result in `α`. -/
inductive Prog (I : Interface) (α : Type) where
  /-- The program is over. -/
  | done (result : α)
  /-- Ask `q` and go on with the answer. -/
  | ask (q : I.Question) (next : I.Answer q → Prog I α)

namespace Prog

variable {I J : Interface} {α β γ : Type}

/-- Run `p`, then what `f` makes of its result. -/
def bind : Prog I α → (α → Prog I β) → Prog I β
  | .done a, f => f a
  | .ask q next, f => .ask q fun answer => (next answer).bind f

instance : Monad (Prog I) where
  pure := .done
  bind := .bind

/-- Ask one question and return its answer. -/
def query (q : I.Question) : Prog I (I.Answer q) := .ask q .done

/-- Replace each question by a program over the interface `J`. -/
def handle (h : (q : I.Question) → Prog J (I.Answer q)) : Prog I α → Prog J α
  | .done a => .done a
  | .ask q next => (h q).bind fun answer => (next answer).handle h

/-- Run a program, taking the answers from a monad. -/
def runM {m : Type → Type} [Monad m] (answer : (q : I.Question) → m (I.Answer q)) :
    Prog I α → m α
  | .done a => pure a
  | .ask q next => do (next (← answer q)).runM answer

@[simp] theorem pure_eq (a : α) : (pure a : Prog I α) = .done a := rfl

@[simp] theorem bind_eq (p : Prog I α) (f : α → Prog I β) : p >>= f = p.bind f := rfl

@[simp] theorem done_bind (a : α) (f : α → Prog I β) : (Prog.done a).bind f = f a := rfl

@[simp] theorem ask_bind (q : I.Question) (next : I.Answer q → Prog I α) (f : α → Prog I β) :
    (Prog.ask q next).bind f = .ask q fun answer => (next answer).bind f := rfl

@[simp] theorem bind_done (p : Prog I α) : p.bind .done = p := by
  induction p with
  | done a => rfl
  | ask q next ih => simp only [ask_bind, ih]

theorem bind_assoc (p : Prog I α) (f : α → Prog I β) (g : β → Prog I γ) :
    (p.bind f).bind g = p.bind fun a => (f a).bind g := by
  induction p with
  | done a => rfl
  | ask q next ih => simp only [ask_bind, ih]

instance : LawfulMonad (Prog I) := LawfulMonad.mk' (Prog I)
  (fun p => bind_done p)
  (fun _ _ => rfl)
  (fun p f g => bind_assoc p f g)

theorem handle_bind (h : (q : I.Question) → Prog J (I.Answer q)) (p : Prog I α)
    (f : α → Prog I β) :
    (p.bind f).handle h = (p.handle h).bind fun a => (f a).handle h := by
  induction p with
  | done a => rfl
  | ask q next ih => simp only [ask_bind, handle, ih, bind_assoc]

end Prog

end ClusterKeeper
