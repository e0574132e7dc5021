import ClusterKeeper.Outside

/-!
# Work over HTTP

Calls carried out as exchanges: a call sends the one request it stands for and reads
its answer in what became of it. A call whose request cannot be formed sends nothing.

* `Exchange.database`, `Exchange.kube`: a call as an exchange.
* `Exchange.carryOut`: whatever the operator asks, with calls as exchanges.
-/

namespace ClusterKeeper.Exchange

/-- What is asked of the network, of the clock, and of those who count and wait. -/
inductive Question where
  /-- Send a request to the remote API. -/
  | database (request : DatabaseRequest)
  /-- Send a request to the object store. -/
  | kube (request : Kube.Request)
  /-- Tell the time. -/
  | clock
  /-- Count something. -/
  | record (event : Metrics.Event)
  /-- Wait for some milliseconds. -/
  | pause (millis : Nat)

/-- The answers. -/
@[reducible] def Answer : Question → Type
  | .database _ | .kube _ => Http.Outcome
  | .clock => Instant
  | .record _ | .pause _ => Unit

/-- The interface to the network. -/
@[reducible] def interface : Interface := ⟨Question, Answer⟩

/-- Make a call of the remote API. -/
def database (session : Session) (call : DatabaseCall) :
    Prog interface (Except CallFailure call.Answer) :=
  match session.request call with
  | .error failure => .done (.error failure)
  | .ok request => .ask (.database request) fun outcome =>
      .done (call.interpret request.url outcome)

/-- Make a call of the object store. -/
def kube (call : Kube.Call) : Prog interface (Except Kube.Failure call.Answer) :=
  match call.request with
  | .error failure => .done (.error failure)
  | .ok request => .ask (.kube request) fun outcome => .done (call.interpret outcome)

/-- What the operator asks, with calls as exchanges. -/
def carryOut : (q : Outside.Question) → Prog interface (Outside.Answer q)
  | .database session call => database session call
  | .kube call => kube call
  | .clock => Prog.query (I := interface) .clock
  | .record event => Prog.query (I := interface) (.record event)
  | .pause millis => Prog.query (I := interface) (.pause millis)

end ClusterKeeper.Exchange
