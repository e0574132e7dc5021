import ClusterKeeper.Http.Status
import ClusterKeeper.Http.Target
import ClusterKeeper.Metrics.Page

/-!
# The metrics server

It shows the metrics page and says that the operator is up. The method of a
request does not matter, save that an answer to HEAD has no body, nor one that opens
a tunnel, and of its target only the path counts.

* `Server.answer`: the answer to a request.
-/

namespace ClusterKeeper.Metrics.Server

/-- An answer to a request. -/
structure Answer where
  status : Nat
  contentType : Option String := none
  body : String := ""
  deriving DecidableEq, Repr

/-- Whether a character may stand in a method. -/
def isMethodChar (c : Char) : Bool :=
  (33 ≤ c.toNat && c.toNat < 127) &&
    !("()<>@,;:\\\"/[]?=\x7b\x7d".toList.contains c)

/-- The answer at a path. -/
def atPath (r : Registry) (path : String) : Answer :=
  if path = "/metrics" then ⟨200, some "text/plain; version=0.0.4", r.page⟩
  else if path = "/healthz" ∨ path = "/health" ∨ path = "/readyz" ∨ path = "/ready" then
    ⟨200, none, "ok"⟩
  else ⟨404, none, "Not Found"⟩

/-- Whether a method and a target make the first line of a request. -/
def isRequest (method target : List Char) : Bool :=
  !method.isEmpty && method.all isMethodChar && !target.isEmpty && target.all Http.Target.isSeen

/-- The answer as it is sent: none to HEAD has a body, and none that opens a tunnel. -/
def Answer.sent (method : String) (a : Answer) : Answer :=
  if method = "HEAD" ∨ (method = "CONNECT" ∧ Http.isSuccess a.status) then { a with body := "" }
  else a

/-- The answer to a request, which is empty if its first line is none or names no
place. -/
def answer (r : Registry) (method target : String) : Answer :=
  if isRequest method.toList target.toList then
    if Http.Target.isTooLong target.toList then ⟨414, none, ""⟩
    else
      match Http.Target.path? target.toList with
      | some path => (atPath r (String.ofList path)).sent method
      | none => ⟨400, none, ""⟩
  else ⟨400, none, ""⟩

end ClusterKeeper.Metrics.Server
