import ClusterKeeper.Outside

/-!
# The life of a database

The four verbs on a cluster: observe the database, create it, update it, delete it.
Each gives a result and the cluster as the verb leaves it, also when it fails.

* `Lifecycle.connect`: a session with the credentials that a cluster names.
* `Lifecycle.observe`, `create`, `update`, `delete`: the verbs.
* `Managed.on`: a verb on a resource that may be of another kind.
-/

namespace ClusterKeeper

/-- What an observation finds. -/
structure Sighting where
  /-- Whether there is a database. -/
  present : Bool := false
  /-- Whether it is as the cluster asks for. -/
  upToDate : Bool := false
  details : ConnectionDetails := .empty
  deriving DecidableEq, Repr, Inhabited

namespace Lifecycle

/-- A session with the credentials that the cluster names. -/
def connect (apiUrl : String) (c : Cluster) : Work (Except Error Session) := do
  match ← Work.ofAccess (Kube.token c.spec.providerConfigRef.name) with
  | .error e => return .error e
  | .ok token =>
    return (Session.start apiUrl token).mapError fun f => (CredentialsFailure.noClient f).error

/-- Count a call of the remote API. -/
def count (operation : String) (success : Bool) : Work Unit :=
  Work.record (.externalCall operation success)

/-- Record an observed database in the status. -/
def settle (c : Cluster) (db : Database) : Work (Except Error Sighting × Cluster) := do
  let now ← Work.clock
  return (.ok { present := true, upToDate := true }, (c.observed db).settleStatus now)

/-- Take unset parameters from an observed database and store them, then record it.
A cluster that cannot be stored keeps its parameters. -/
def adopt (c : Cluster) (db : Database) : Work (Except Error Sighting × Cluster) := do
  let late := c.lateInitialize db
  if late.spec.forProvider = c.spec.forProvider then settle c db
  else
    match ← Work.ofAccess (Kube.replace late) with
    | .error e => return (.error (.kube s!"{Error.updateContext}: {e.message}"), late)
    -- of the stored cluster only the metadata is news
    | .ok stored => settle { late with metadata := stored.metadata } db

/-- Look for the database that the cluster is bound to. -/
def observe (session : Session) (c : Cluster) : Work (Except Error Sighting × Cluster) := do
  if c.externalName = "" then return (.ok {}, c)
  else
    match ← Work.database session (.get c.externalName) with
    | .ok db =>
      count "get" true
      adopt c db
    | .error f =>
      -- that there is none is an answer too
      count "get" f.isNotFound
      if f.isNotFound then return (.ok {}, c)
      else return (.error (.remote Error.getContext f), c)

/-- The name for a new database: the one the cluster is bound to, or else its own. -/
def databaseName (c : Cluster) : String :=
  if c.externalName = "" then c.metadata.name.getD "" else c.externalName

/-- The connection details of a new database, which is fetched if it came without a
connection. No details are better than no database. -/
def freshDetails (session : Session) (db : Database) : Work ConnectionDetails := do
  if db.connection.isSome then return .ofDatabase db
  else
    match ← Work.database session (.get db.id) with
    | .ok fetched => return .ofDatabase fetched
    | .error _ => return .empty

/-- Create a database and bind the cluster to it. -/
def create (session : Session) (c : Cluster) : Work (Except Error ConnectionDetails × Cluster) := do
  let now ← Work.clock
  let c := c.setReady .creating now
  let name := databaseName c
  if name = "" then return (.error .nameRequired, c)
  else
    match ← Work.database session (.create (c.spec.forProvider.createRequest name)) with
    | .error f =>
      count "create" false
      return (.error (.remote Error.createContext f), c)
    | .ok none =>
      count "create" false
      return (.error (.emptyResponse Error.createContext), c)
    | .ok (some db) =>
      count "create" true
      -- from here on the cluster is bound, whatever happens to the details
      let c := c.setExternalName db.id
      if c.spec.connectionSecretRef.isSome then
        let details ← freshDetails session db
        return (.ok details, c)
      else return (.ok .empty, c)

/-- Databases are not changed once they exist. -/
def update (_ : Session) (c : Cluster) : Work (Except Error ConnectionDetails × Cluster) :=
  return (.ok .empty, c)

/-- Delete the database that the cluster is bound to. One that is gone is deleted. -/
def delete (session : Session) (c : Cluster) : Work (Except Error Unit × Cluster) := do
  let now ← Work.clock
  let c := c.setReady .deleting now
  if c.externalName = "" then return (.ok (), c)
  else
    match ← Work.database session (.delete c.externalName) with
    | .ok () =>
      count "delete" true
      return (.ok (), c)
    | .error f =>
      -- a database that is gone counts as deleted
      count "delete" f.isNotFound
      if f.isNotFound then return (.ok (), c)
      else return (.error (.remote Error.deleteContext f), c)

end Lifecycle

/-- A resource that a verb may be asked to work on. -/
inductive Managed where
  | cluster (c : Cluster)
  /-- A resource of another kind. -/
  | foreign
  deriving Repr

namespace Managed

/-- A verb on a resource: one of another kind is refused. -/
def on {α : Type} (verb : Cluster → Work (Except Error α × Cluster)) :
    Managed → Work (Except Error α × Managed)
  | .cluster c => do
    let (result, c) ← verb c
    return (result, .cluster c)
  | .foreign => return (.error .wrongResourceKind, .foreign)

/-- Updating changes nothing, whatever the kind. -/
def update (m : Managed) : Work (Except Error ConnectionDetails × Managed) :=
  return (.ok .empty, m)

end Managed

end ClusterKeeper
