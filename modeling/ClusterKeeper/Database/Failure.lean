import ClusterKeeper.Http.Basic

/-!
# Failed calls of the remote API

* `CallFailure.message`: the failure in words.
* `CallFailure.isNotFound`: whether the remote API says that there is no such
  database.
-/

namespace ClusterKeeper

/-- Why a call of the remote API failed. -/
inductive CallFailure where
  /-- The exchange failed. -/
  | http (failure : Http.Failure)
  /-- The response reports an error. -/
  | api (status : Nat) (message : String)
  /-- The response reports success and lacks what was asked for. -/
  | emptyBody (what : String)
  /-- The address of the API cannot be used. -/
  | invalidUrl (why : String)
  deriving DecidableEq, Repr

namespace CallFailure

/-- The failure in words. -/
def message : CallFailure → String
  | .http failure => s!"HTTP request failed: {failure.message}"
  | .api status message => s!"API error (status {status}): {message}"
  | .emptyBody what => s!"Empty response body: {what}"
  | .invalidUrl why => s!"Invalid URL: {why}"

/-- Whether the remote API says that there is no such database. -/
def isNotFound : CallFailure → Bool
  | .api status _ => status == 404
  | .http (.status code _) => code == 404
  | _ => false

/-- The texts of the causes, outermost first. -/
def sources : CallFailure → List String
  | .http failure => [failure.message]
  | _ => []

end CallFailure

end ClusterKeeper
