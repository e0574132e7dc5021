import ClusterKeeper.Cluster.ConnectionSecret
import ClusterKeeper.Http.Basic
import ClusterKeeper.Http.Target
import ClusterKeeper.Json.Parser
import ClusterKeeper.Kube.Failure
import ClusterKeeper.ProviderConfig

/-!
# The object store

The calls of the object store that the operator makes, each a request before it is
sent and an object, or a failure, made of what came back.

* `Kube.Call.request`: the request of a call, if its object has a usable name.
* `Kube.received`: the text of a response, read before anything is made of it.
* `Kube.Call.interpret`: the answer in an outcome.
-/

namespace ClusterKeeper.Kube

/-- A change to the finalizers of an object, which the store refuses if they are not
what they are taken to be. -/
inductive FinalizerEdit where
  /-- Make the finalizer the first. -/
  | create (finalizer : String)
  /-- Append the finalizer to the others. -/
  | append (others : List String) (finalizer : String)
  /-- Remove the finalizer at an index. -/
  | remove (index : Nat) (finalizer : String)
  deriving DecidableEq, Repr

namespace FinalizerEdit

/-- Where an object keeps its finalizers. -/
def place : String := "/metadata/finalizers"

/-- One operation on a place. -/
def operation (op path : String) (value : Option Json) : Json := .fields [
  ("op", some (.str op)), ("path", some (.str path)), ("value", value)]

/-- The operations of an edit: a test of what is there, then the change. -/
def toJson : FinalizerEdit → Json
  | .create finalizer => .arr [
      operation "test" place (some .null),
      operation "add" place (some (.arr [.str finalizer]))]
  | .append others finalizer => .arr [
      operation "test" place (some (.list .str others)),
      operation "add" s!"{place}/-" (some (.str finalizer))]
  | .remove index finalizer => .arr [
      operation "test" s!"{place}/{index}" (some (.str finalizer)),
      operation "remove" s!"{place}/{index}" none]

end FinalizerEdit

/-- A call of the object store. -/
inductive Call where
  | getProviderConfig (name : String)
  | getSecret (ns : String) (name : String)
  /-- Store the cluster in the place of the one with its name. -/
  | replaceCluster (name : String) (cluster : Cluster)
  | editFinalizers (name : String) (edit : FinalizerEdit)
  /-- Record the identifier that the remote API gave. -/
  | setExternalName (name : String) (externalName : String)
  | setStatus (name : String) (status : Status)
  /-- Create the secret or bring it to what is given. -/
  | applySecret (reference : SecretReference) (secret : Secret)
  deriving Repr

/-- What a successful call gives: the object as the store has it. -/
@[reducible] def Call.Answer : Call → Type
  | .getProviderConfig _ => ProviderConfig
  | .getSecret _ _ | .applySecret _ _ => Secret
  | .replaceCluster _ _ | .editFinalizers _ _ | .setExternalName _ _ | .setStatus _ _ => Cluster

/-- A request of the object store. -/
structure Request where
  method : Http.Method
  path : String
  query : Option String := none
  contentType : Option String := none
  body : Option Json := none
  deriving Repr

namespace Request

/-- The request of a target. -/
def ofTarget (method : Http.Method) (target : String) (contentType : Option String)
    (body : Option Json) : Except Failure Request :=
  if Http.Target.isTooLong target.toList then .error (.refused .tooLong)
  else
    match Http.Target.cut? target.toList with
    | some (path, query) =>
      .ok {
        method, path := String.ofList path, query := query.map String.ofList, contentType, body }
    | none => .error (.refused .invalidCharacter)

/-- A request that reads the object with a name. -/
def read (place name : String) : Except Failure Request :=
  if name = "" then .error (.refused .noName)
  else ofTarget .get s!"{place}/{name}" none none

/-- A request that writes to the object with a name, or to a part of it. -/
def write (method : Http.Method) (place name part settings contentType : String) (body : Json) :
    Except Failure Request :=
  if name = "" then .error (.refused .noName)
  else ofTarget method s!"{place}/{name}{part}?{settings}" (some contentType) (some body)

end Request

namespace Call

/-- Where provider configurations are kept. -/
def providerConfigPlace : String := "/apis/do.crossplane.io/v1alpha1/providerconfigs"

/-- Where clusters are kept. -/
def clusterPlace : String := "/apis/database.do.crossplane.io/v1alpha1/dodatabaseclusters"

/-- Where the secrets of a namespace are kept. -/
def secretPlace (ns : String) : String := s!"/api/v1/namespaces/{ns}/secrets"

/-- The settings under which secrets are applied. -/
def applySettings : String := "&force=true&fieldManager=digitalocean-database-operator"

/-- An object with one member. -/
def nested (name : String) (j : Json) : Json := .fields [(name, some j)]

/-- The body that records an identifier. -/
def externalNameBody (externalName : String) : Json :=
  nested "metadata" (nested "annotations" (nested Cluster.externalNameKey (.str externalName)))

/-- The request of a call. -/
def request : Call → Except Failure Request
  | .getProviderConfig name => Request.read providerConfigPlace name
  | .getSecret ns name => Request.read (secretPlace ns) name
  | .replaceCluster name cluster =>
    Request.write .put clusterPlace name "" "" "application/json" cluster.toJson
  | .editFinalizers name edit =>
    Request.write .patch clusterPlace name "" "" "application/json-patch+json" edit.toJson
  | .setExternalName name externalName =>
    Request.write .patch clusterPlace name "" "" "application/merge-patch+json"
      (externalNameBody externalName)
  | .setStatus name status =>
    Request.write .patch clusterPlace name "/status" "" "application/merge-patch+json"
      (nested "status" status.toJson)
  | .applySecret reference secret =>
    Request.write .patch (secretPlace reference.ns) reference.name "" applySettings
      "application/apply-patch+yaml" secret.toJson

/-- The reader of the answer. -/
def reader : (call : Call) → Json → Option call.Answer
  | .getProviderConfig _ => ProviderConfig.ofJson?
  | .getSecret _ _ | .applySecret _ _ => Secret.ofJson?
  | .replaceCluster _ _ | .editFinalizers _ _ | .setExternalName _ _ | .setStatus _ _ =>
    Cluster.ofJson?

end Call

namespace ErrorReport

/-- The report in an error body. -/
def ofJson? (j : Json) : Option ErrorReport := do
  let r ← j.record? ["status", "message", "reason", "code"]
  let status ← (r "status").required Json.text?
  let message ← (r "message").default "" Json.text?
  let reason ← (r "reason").default "" Json.text?
  let code ← (r "code").required (Json.below? 65536)
  some ⟨status, message, reason, code⟩

/-- What stands for the report of a body that holds none. -/
def ofText (status : Nat) (text : String) : ErrorReport where
  status := Http.statusLine status
  message := Text.quoted text
  reason := "Failed to parse error data"
  code := status

end ErrorReport

/-- What is said of a text that is not that of the expected object: no more than whether it holds a
value. -/
def complaint (text : String) : String :=
  if (Json.ofText? text).isSome then "unexpected value" else "no JSON value"

/-- The text in the body of a response, if it came to its end and is one. -/
def received (r : Http.Response) : Except Failure String :=
  if r.complete then (Utf8.decode r.body).mapError .encoding
  else .error (.service "error reading a body from connection")

namespace Call

/-- The answer in the outcome of a call's request. -/
def interpret (call : Call) : Http.Outcome → Except Failure call.Answer
  | .noResponse => .error (.service "client error (SendRequest)")
  | .response r => do
    let text ← received r
    -- only an error status makes a report of the body
    if Http.isFailure r.status then
      match (Json.ofText? text).bind ErrorReport.ofJson? with
      | some report => .error (.api report)
      | none => .error (.api (.ofText r.status text))
    else
      match (Json.ofText? text).bind call.reader with
      | some answer => .ok answer
      | none => .error (.decoding (complaint text))

end Call

end ClusterKeeper.Kube
