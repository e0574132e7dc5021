import ClusterKeeper.Database.Failure
import ClusterKeeper.Kube.Failure

/-!
# Errors

What can go wrong in a reconcile. An error that ended the work on an object that
carries the finalizer is wrapped once more, with the work it ended.

* `Error.message`, `Error.sources`: an error in words, and its causes.
* `Error.requeueAfter`: how long to wait before the next attempt.
-/

namespace ClusterKeeper

/-- What can go wrong in a reconcile. -/
inductive Error where
  /-- The resource is not a database cluster. -/
  | wrongResourceKind
  /-- No name can be found for a new database. -/
  | nameRequired
  /-- A call of the remote API failed. -/
  | remote (context : String) (source : CallFailure)
  /-- The remote API accepted a request and returned nothing. -/
  | emptyResponse (context : String)
  /-- A call of the object store failed. -/
  | kube (text : String)
  /-- There are no credentials. -/
  | auth (text : String)
  | config (text : String)
  | secret (text : String)
  /-- The work on a live object failed. -/
  | applyFailed (cause : Error)
  /-- The work on a deleted object failed. -/
  | cleanupFailed (cause : Error)
  /-- The finalizer cannot be added. -/
  | addFinalizer (cause : Kube.Failure)
  /-- The finalizer cannot be removed. -/
  | removeFinalizer (cause : Kube.Failure)
  | unnamedObject
  | invalidFinalizer
  deriving DecidableEq, Repr

namespace Error

/-- Fetching a database failed. -/
def getContext : String := "cannot get a Database Cluster"

/-- Creating a database failed. -/
def createContext : String := "creation of Database Cluster resource has failed"

/-- Deleting a database failed. -/
def deleteContext : String := "deletion of Database Cluster resource has failed"

/-- Storing late-initialized parameters failed. -/
def updateContext : String := "cannot update managed Database Cluster resource"

/-- What marks the errors about finalizers. -/
def finalizerLabel : String := "Finalizer error: "

/-- The error in words. -/
def message : Error → String
  | .wrongResourceKind => "managed resource is not a Database Cluster resource"
  | .nameRequired => "name of Database Cluster is required"
  | .remote context source => s!"{context}: {source.message}"
  | .emptyResponse context => s!"{context}: empty response from DigitalOcean API"
  | .kube text => s!"Kubernetes API error: {text}"
  | .auth text => s!"Authentication error: {text}"
  | .config text => s!"Configuration error: {text}"
  | .secret text => s!"Secret error: {text}"
  | .applyFailed cause => s!"{finalizerLabel}failed to apply object: {cause.message}"
  | .cleanupFailed cause => s!"{finalizerLabel}failed to clean up object: {cause.message}"
  | .addFinalizer cause => s!"{finalizerLabel}failed to add finalizer: {cause.message}"
  | .removeFinalizer cause => s!"{finalizerLabel}failed to remove finalizer: {cause.message}"
  | .unnamedObject => s!"{finalizerLabel}object has no name"
  | .invalidFinalizer => s!"{finalizerLabel}invalid finalizer"

/-- The texts of the causes, outermost first. An error about finalizers has what
it says without its label as its first cause. -/
def sources : Error → List String
  | .remote _ source => source.message :: source.sources
  | .applyFailed cause =>
    s!"failed to apply object: {cause.message}" :: cause.message :: cause.sources
  | .cleanupFailed cause =>
    s!"failed to clean up object: {cause.message}" :: cause.message :: cause.sources
  | .addFinalizer cause =>
    s!"failed to add finalizer: {cause.message}" :: cause.message :: cause.sources
  | .removeFinalizer cause =>
    s!"failed to remove finalizer: {cause.message}" :: cause.message :: cause.sources
  | .unnamedObject => ["object has no name"]
  | .invalidFinalizer => ["invalid finalizer"]
  | _ => []

/-- Seconds to wait after an error: short for what may pass by itself, long for
what somebody has to mend. -/
def requeueAfter : Error → Nat
  | .remote _ _ | .emptyResponse _ | .kube _ => 30
  | .nameRequired | .wrongResourceKind | .auth _ | .config _ | .secret _ => 300
  | .applyFailed _ | .cleanupFailed _ | .addFinalizer _ | .removeFinalizer _ | .unnamedObject
  | .invalidFinalizer => 60

end Error

end ClusterKeeper
