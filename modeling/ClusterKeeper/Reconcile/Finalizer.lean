import ClusterKeeper.Reconcile.Steps

/-!
# The finalizer

A cluster that may own a remote database carries a finalizer, which keeps the object
store from dropping it before the database is dealt with. It is added before any
other work and removed after the last.

* `Finalizer.guarded`: which work a cluster calls for.
-/

namespace ClusterKeeper

/-- When a cluster is looked at again. -/
inductive Action where
  /-- After some seconds. -/
  | requeue (seconds : Nat)
  /-- When it changes. -/
  | awaitChange
  deriving DecidableEq, Repr

namespace Finalizer

/-- The finalizer of the operator. -/
def name : String := "database.do.crossplane.io/finalizer"

/-- The finalizers of a cluster. -/
def present (c : Cluster) : List String := c.metadata.finalizers.getD []

/-- Where the finalizer of the operator stands among those of a cluster. -/
def index? (c : Cluster) : Option Nat := (present c).findIdx? (· == name)

/-- Whether the cluster is being deleted. -/
def isDeleted (c : Cluster) : Bool := c.metadata.deletionTimestamp.isSome

/-- Change the finalizers of the cluster with a name. -/
def edit (clusterName : String) (change : Kube.FinalizerEdit) (error : Kube.Failure → Error) :
    Attempt Cluster :=
  Attempt.ofAccess (Kube.call (.editFinalizers clusterName change) error)

/-- The name of a cluster, without which its finalizers cannot be changed. -/
def nameOf (c : Cluster) : Attempt String :=
  Attempt.known (c.metadata.name.elim (.error .unnamedObject) .ok)

/-- The edit that adds the finalizer. -/
def addition (c : Cluster) : Kube.FinalizerEdit :=
  if (present c).isEmpty then .create name else .append (present c) name

/-- The work that a cluster calls for: `apply` if it carries the finalizer and lives,
`cleanup` and the removal of the finalizer if it is being deleted, and the addition
of the finalizer if it lives without it. -/
def guarded (apply cleanup : Attempt Action) (c : Cluster) : Attempt Action :=
  match index? c, isDeleted c with
  | some _, false => ExceptT.adapt .applyFailed apply
  | some index, true => do
    let clusterName ← nameOf c
    let action ← ExceptT.adapt .cleanupFailed cleanup
    let _ ← edit clusterName (.remove index name) .removeFinalizer
    return action
  | none, false => do
    let clusterName ← nameOf c
    let _ ← edit clusterName (addition c) .addFinalizer
    return .awaitChange
  | none, true => return .awaitChange

end Finalizer

end ClusterKeeper
