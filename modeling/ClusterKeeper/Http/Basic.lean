import ClusterKeeper.Http.Status
import ClusterKeeper.Json.Basic

/-!
# HTTP requests and their outcomes

A request is a value, and so is what became of it: a response, or none. Nothing
here sends anything.

* `Http.Failure.message`: a failed exchange in words.
-/

namespace ClusterKeeper.Http

/-- The methods in use. -/
inductive Method where
  | get
  | post
  | put
  | patch
  | delete
  deriving DecidableEq, Repr

/-- The method as it is sent. -/
def Method.text : Method → String
  | .get => "GET"
  | .post => "POST"
  | .put => "PUT"
  | .patch => "PATCH"
  | .delete => "DELETE"

/-- A response: its status, the bytes of its body that arrived, and whether all did. -/
structure Response where
  status : Nat
  body : List UInt8
  complete : Bool := true
  deriving DecidableEq, Repr

/-- What became of a request. -/
inductive Outcome where
  | response (r : Response)
  /-- The connection failed before a response. -/
  | noResponse
  deriving DecidableEq, Repr

/-- Why an exchange failed. -/
inductive Failure where
  /-- The request cannot be formed. -/
  | builder
  /-- No request can be sent to the address. -/
  | address (url : String)
  /-- No response came from the address. -/
  | sending (url : String)
  /-- The body of the response is not what was expected. -/
  | decoding
  /-- The status itself is the error. -/
  | status (code : Nat) (url : String)
  deriving DecidableEq, Repr

/-- The failure in words. -/
def Failure.message : Failure → String
  | .builder => "builder error"
  | .address url => s!"builder error for url ({url})"
  | .sending url => s!"error sending request for url ({url})"
  | .decoding => "error decoding response body"
  | .status code url =>
    let side := if code < 500 then "client" else "server"
    s!"HTTP status {side} error ({statusLine code}) for url ({url})"

end ClusterKeeper.Http
