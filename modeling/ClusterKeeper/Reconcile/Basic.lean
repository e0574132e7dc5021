import ClusterKeeper.Exchange
import ClusterKeeper.Reconcile.Finalizer
import ClusterKeeper.Reconcile.Retry

/-!
# Reconciling a cluster

One look at a cluster: a live one is brought closer to what it asks for, a deleted
one loses its database.

* `Reconcile.apply`, `Reconcile.cleanup`: the work on a live and on a deleted cluster.
* `Reconcile.run`: a reconcile, with what it counts.
* `Reconcile.next`: when the cluster is looked at again.
* `Reconcile.work`, `Reconcile.exchanges`: a reconcile as calls, and as requests.
-/

namespace ClusterKeeper.Reconcile

/-- Seconds between looks at a cluster whose database is being created. -/
def creatingInterval : Nat := 15

/-- Attempts at recording the identifier of a new database. -/
def nameAttempts : Nat := 3

/-- Milliseconds between them. -/
def nameBackoff : Nat := 500

/-- Record the identifier of a new database, without which it would be lost. -/
def persistName (c : Cluster) : Attempt Cluster :=
  Prog.retry (Prog.query (I := Steps.interface) (.pause nameBackoff))
    (Attempt.ofAccess (Kube.persistExternalName c)) nameAttempts

/-- Record the status of a cluster. -/
def recordStatus (c : Cluster) : Attempt Unit := Attempt.ofAccess (Kube.recordStatus c)

/-- Write connection details to the secret that the cluster asks for. -/
def publish (c : Cluster) (details : ConnectionDetails) : Attempt Unit :=
  Attempt.ofAccess (Kube.publish c details)

/-- Create the database of a cluster that has none. Its identifier and the status are
recorded also when it could not be created. -/
def introduce (session : Session) (c : Cluster) : Attempt Action := do
  let (creation, c) ←
    Attempt.certain (Prog.query (I := Steps.interface) (.create session c))
  -- the identifier comes first: without it the database could not be found again
  if c.externalName ≠ "" then
    let _ ← persistName c
  recordStatus c
  let details ← Attempt.known creation
  publish c details
  return .requeue creatingInterval

/-- Whether the status says that the database is available. -/
def isAvailable (c : Cluster) : Bool := c.readyReason? == some .available

/-- Seconds until the next look at a cluster that has a database. -/
def settledInterval (interval : Nat) (c : Cluster) : Nat :=
  if c.readyReason? = some .creating then creatingInterval else interval

/-- Bring the database of a cluster up to date, if the sighting says it is not. -/
def bringUpToDate (session : Session) (c : Cluster) (sighting : Sighting) : Attempt Cluster := do
  if sighting.upToDate then return c
  else
    let (result, c) ←
      Attempt.certain (Prog.query (I := Steps.interface) (.update session c))
    let details ← Attempt.known result
    publish c details
    return c

/-- Keep up a cluster that has a database. -/
def maintain (interval : Nat) (name : String) (session : Session) (c : Cluster)
    (sighting : Sighting) : Attempt Action := do
  let c ← bringUpToDate session c sighting
  publish c sighting.details
  recordStatus c
  Attempt.record (.availability name (isAvailable c))
  return .requeue (settledInterval interval c)

/-- The work on a live cluster. -/
def apply (interval : Nat) (c : Cluster) : Attempt Action := do
  let session ← Attempt.connect c
  let (result, observed) ←
    Attempt.certain (Prog.query (I := Steps.interface) (.observe session c))
  let sighting ← Attempt.known result
  if sighting.present then maintain interval c.anyName session observed sighting
  else introduce session observed

/-- The work on a cluster that is being deleted. An orphaned database stays, and a
status that cannot be recorded does not matter any more. -/
def cleanup (c : Cluster) : Attempt Action := do
  Attempt.record (.forgotten c.anyName)
  if c.spec.deletionPolicy = .orphan then return .awaitChange
  else
    let session ← Attempt.connect c
    let (result, c) ←
      Attempt.certain (Prog.query (I := Steps.interface) (.delete session c))
    Attempt.known result
    let _ ← Attempt.certain (recordStatus c).run
    return .awaitChange

/-- A reconcile: the work that the cluster calls for, counted when it starts and when
it ends. -/
def run (interval : Nat) (c : Cluster) : Prog Steps.interface (Except Error Action) := do
  Prog.query (I := Steps.interface) (.record .reconcileStarted)
  let result ← (Finalizer.guarded (apply interval c) (cleanup c) c).run
  Prog.query (I := Steps.interface) (.record (.reconcileEnded (!result.isOk)))
  return result

/-- When the cluster is looked at again: after an error as its cause calls for. -/
def next : Except Error Action → Action
  | .ok action => action
  | .error e => .requeue e.requeueAfter

/-- A reconcile as work on the world. -/
def work (config : Config) (c : Cluster) : Work (Except Error Action) :=
  (run config.reconcileInterval c).handle (Steps.carryOut config.apiUrl)

/-- A reconcile as exchanges over HTTP. -/
def exchanges (config : Config) (c : Cluster) : Prog Exchange.interface (Except Error Action) :=
  (work config c).handle Exchange.carryOut

end ClusterKeeper.Reconcile
