import ClusterKeeper.Text.Quoted
import ClusterKeeper.Text.Utf8

/-!
# Failed calls of the object store

* `Kube.Failure.message`: the failure in words.
* `Kube.Failure.sources`: the texts of its causes.
-/

namespace ClusterKeeper.Kube

/-- Why a request cannot be formed. -/
inductive Refusal where
  | noName
  | invalidCharacter
  | tooLong
  deriving DecidableEq, Repr

/-- The refusal in words. -/
def Refusal.message : Refusal → String
  | .noName => "failed to validate request: A non-empty name is required"
  | .invalidCharacter => "failed to build request: invalid uri character"
  | .tooLong => "failed to build request: uri too long"

/-- What the object store says about a failed request. -/
structure ErrorReport where
  status : String
  message : String
  reason : String
  code : Nat
  deriving DecidableEq, Repr

namespace ErrorReport

/-- The report in short. -/
def short (r : ErrorReport) : String := s!"{r.message}: {r.reason}"

/-- The report with all its parts. -/
def full (r : ErrorReport) : String :=
  s!"ErrorResponse \x7b status: {Text.quoted r.status}, message: {Text.quoted r.message}, " ++
    s!"reason: {Text.quoted r.reason}, code: {r.code} \x7d"

end ErrorReport

/-- Why a call of the object store failed. -/
inductive Failure where
  /-- The request cannot be formed. -/
  | refused (why : Refusal)
  /-- The store reports an error. -/
  | api (report : ErrorReport)
  /-- The connection failed, or it broke off before the end of the answer. -/
  | service (cause : String)
  /-- The answer is no text. -/
  | encoding (fault : Utf8.Fault)
  /-- The text of the answer is not that of the expected object. -/
  | decoding (cause : String)
  /-- A failure in words of its own, of which nothing else is known. -/
  | unreadable (why : String)
  deriving DecidableEq, Repr

/-- The failure in words. -/
def Failure.message : Failure → String
  | .refused why => s!"Failed to build request: {why.message}"
  | .api report => s!"ApiError: {report.short} ({report.full})"
  | .service cause => s!"ServiceError: {cause}"
  | .encoding fault => s!"UTF-8 Error: {fault.message}"
  | .decoding cause => s!"Error deserializing response: {cause}"
  | .unreadable why => why

/-- The texts of its causes. -/
def Failure.sources : Failure → List String
  | .refused why => [why.message]
  | .api report => [report.short]
  | .service cause | .decoding cause => [cause]
  | .encoding fault => [fault.message]
  | .unreadable _ => []

end ClusterKeeper.Kube
