import ClusterKeeper.Lifecycle

/-!
# The steps of a reconcile

What a reconcile asks for: a session, the verbs on the database, calls of the object
store, and to count and wait. The steps are carried out as work on the world.

* `Steps.carryOut`: the work that a step stands for.
-/

namespace ClusterKeeper

namespace Steps

/-- What a reconcile asks for. -/
inductive Question where
  | connect (c : Cluster)
  | observe (session : Session) (c : Cluster)
  | create (session : Session) (c : Cluster)
  | update (session : Session) (c : Cluster)
  | delete (session : Session) (c : Cluster)
  | kube (call : Kube.Call)
  | record (event : Metrics.Event)
  | pause (millis : Nat)

/-- The answers. A verb gives the cluster as it leaves it. -/
@[reducible] def Answer : Question → Type
  | .connect _ => Except Error Session
  | .observe _ _ => Except Error Sighting × Cluster
  | .create _ _ | .update _ _ => Except Error ConnectionDetails × Cluster
  | .delete _ _ => Except Error Unit × Cluster
  | .kube call => Except Kube.Failure call.Answer
  | .record _ | .pause _ => Unit

/-- The interface between a reconcile and what carries it out. -/
@[reducible] def interface : Interface := ⟨Question, Answer⟩

/-- The work that a step stands for. -/
def carryOut (apiUrl : String) : (q : Question) → Work (Answer q)
  | .connect c => Lifecycle.connect apiUrl c
  | .observe session c => Lifecycle.observe session c
  | .create session c => Lifecycle.create session c
  | .update session c => Lifecycle.update session c
  | .delete session c => Lifecycle.delete session c
  | .kube call => Prog.query (I := Outside.interface) (.kube call)
  | .record event => Work.record event
  | .pause millis => Prog.query (I := Outside.interface) (.pause millis)

end Steps

/-- A part of a reconcile, which may fail. -/
abbrev Attempt (α : Type) := ExceptT Error (Prog Steps.interface) α

namespace Attempt

/-- A step that may fail. -/
def step {α : Type} (p : Prog Steps.interface (Except Error α)) : Attempt α := p

/-- A session for a cluster. -/
def connect (c : Cluster) : Attempt Session :=
  step (Prog.query (I := Steps.interface) (.connect c))

/-- A step that cannot fail. -/
def certain {α : Type} (p : Prog Steps.interface α) : Attempt α := ExceptT.lift p

/-- A result that is known. -/
def known {α : Type} (result : Except Error α) : Attempt α := step (.done result)

/-- Count something. -/
def record (event : Metrics.Event) : Attempt Unit :=
  certain (Prog.query (I := Steps.interface) (.record event))

/-- Work on the object store alone. -/
def ofAccess {α : Type} (access : Kube.Access α) : Attempt α :=
  step (Prog.handle (fun call => Prog.query (I := Steps.interface) (.kube call)) access)

end Attempt

end ClusterKeeper
