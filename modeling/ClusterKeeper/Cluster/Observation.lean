import ClusterKeeper.Cluster.Parameters

/-!
# Observations

What the status of a cluster says about its database. Empty texts are unset.

* `Observation.ofDatabase`: the observation of a database.
-/

namespace ClusterKeeper

/-- What the status says about the database. -/
structure Observation where
  id : Option String := none
  name : Option String := none
  engine : Option String := none
  version : Option String := none
  numNodes : Option Int32 := none
  size : Option String := none
  region : Option String := none
  status : Option String := none
  createdAt : Option Instant := none
  privateNetworkUuid : Option String := none
  tags : List String := []
  deriving DecidableEq, Repr, Inhabited

namespace Observation

/-- A 32-bit integer as JSON. -/
def int32Json (n : Int32) : Json := .int n.toInt

/-- The written form. -/
def toJson (o : Observation) : Json := .fields [
  ("id", o.id.map .str),
  ("name", o.name.map .str),
  ("engine", o.engine.map .str),
  ("version", o.version.map .str),
  ("numNodes", o.numNodes.map int32Json),
  ("size", o.size.map .str),
  ("region", o.region.map .str),
  ("status", o.status.map .str),
  ("createdAt", o.createdAt.map Instant.toJson),
  ("privateNetworkUUID", o.privateNetworkUuid.map .str),
  ("tags", Json.listUnlessEmpty .str o.tags)]

/-- Reading. -/
def ofJson? (j : Json) : Option Observation := do
  let r ← j.record? ["id", "name", "engine", "version", "numNodes", "size", "region", "status",
    "createdAt", "privateNetworkUUID", "tags"]
  let id ← (r "id").optional Json.text?
  let name ← (r "name").optional Json.text?
  let engine ← (r "engine").optional Json.text?
  let version ← (r "version").optional Json.text?
  let numNodes ← (r "numNodes").optional Json.int32?
  let size ← (r "size").optional Json.text?
  let region ← (r "region").optional Json.text?
  let status ← (r "status").optional Json.text?
  let createdAt ← (r "createdAt").optional Instant.ofJson?
  let privateNetworkUuid ← (r "privateNetworkUUID").optional Json.text?
  let tags ← (r "tags").default [] (Json.listOf? Json.text?)
  some { id, name, engine, version, numNodes, size, region, status, createdAt, privateNetworkUuid,
         tags }

/-- The observation of a database. -/
def ofDatabase (d : Database) : Observation where
  id := Parameters.nonEmpty d.id
  name := Parameters.nonEmpty d.name
  engine := Parameters.nonEmpty d.engine
  version := Parameters.nonEmpty d.version
  numNodes := some d.numNodes
  size := Parameters.nonEmpty d.size
  region := Parameters.nonEmpty d.region
  status := Parameters.nonEmpty d.status
  createdAt := d.createdAt
  privateNetworkUuid := Parameters.nonEmpty d.privateNetworkUuid
  tags := d.tags

end Observation

end ClusterKeeper
