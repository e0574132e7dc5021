import ClusterKeeper.Database.Api
import ClusterKeeper.Kube.Store
import ClusterKeeper.Metrics.Basic

/-!
# The outside of the operator

Everything that the operator asks of the world around it: the remote API, the
object store, the clock, the metrics, and to wait.

* `Work`: programs that ask it.
* `Work.ofAccess`: work on the object store alone is work.
-/

namespace ClusterKeeper

namespace Outside

/-- What the operator asks. -/
inductive Question where
  /-- Make a call of the remote API. -/
  | database (session : Session) (call : DatabaseCall)
  /-- Make a call of the object store. -/
  | kube (call : Kube.Call)
  /-- Tell the time. -/
  | clock
  /-- Count something. -/
  | record (event : Metrics.Event)
  /-- Wait for some milliseconds. -/
  | pause (millis : Nat)

/-- The answers. -/
@[reducible] def Answer : Question → Type
  | .database _ call => Except CallFailure call.Answer
  | .kube call => Except Kube.Failure call.Answer
  | .clock => Instant
  | .record _ | .pause _ => Unit

/-- The operator's interface to the world. -/
@[reducible] def interface : Interface := ⟨Question, Answer⟩

end Outside

/-- A program that asks the world. -/
abbrev Work (α : Type) := Prog Outside.interface α

namespace Work

/-- Make a call of the remote API. -/
def database (session : Session) (call : DatabaseCall) : Work (Except CallFailure call.Answer) :=
  Prog.query (I := Outside.interface) (.database session call)

/-- Tell the time. -/
def clock : Work Instant := Prog.query (I := Outside.interface) .clock

/-- Count something. -/
def record (event : Metrics.Event) : Work Unit :=
  Prog.query (I := Outside.interface) (.record event)

/-- Work on the object store alone. -/
def ofAccess {α : Type} (access : Kube.Access α) : Work (Except Error α) :=
  Prog.handle (fun call => Prog.query (I := Outside.interface) (.kube call)) access

end Work

end ClusterKeeper
