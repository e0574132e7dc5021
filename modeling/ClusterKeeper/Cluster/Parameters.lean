import ClusterKeeper.Database.Basic

/-!
# Parameters of a cluster

What a user asks for, and what is asked of the remote API for it.

* `Parameters.createRequest`: the request.
* `Parameters.lateInitialize`: unset parameters are taken from the database that
  is observed; set ones stay.
-/

namespace ClusterKeeper

/-- What a user asks for. -/
structure Parameters where
  engine : Option String := none
  version : Option String := none
  numNodes : Int32
  size : String
  region : String
  privateNetworkUuid : Option String := none
  tags : List String := []
  deriving DecidableEq, Repr

namespace Parameters

/-- The written form. -/
def toJson (p : Parameters) : Json := .fields [
  ("engine", p.engine.map .str),
  ("version", p.version.map .str),
  ("numNodes", some (.int p.numNodes.toInt)),
  ("size", some (.str p.size)),
  ("region", some (.str p.region)),
  ("privateNetworkUUID", p.privateNetworkUuid.map .str),
  ("tags", Json.listUnlessEmpty .str p.tags)]

/-- Reading. -/
def ofJson? (j : Json) : Option Parameters := do
  let r ← j.record? ["engine", "version", "numNodes", "size", "region", "privateNetworkUUID",
    "tags"]
  let engine ← (r "engine").optional Json.text?
  let version ← (r "version").optional Json.text?
  let numNodes ← (r "numNodes").required Json.int32?
  let size ← (r "size").required Json.text?
  let region ← (r "region").required Json.text?
  let privateNetworkUuid ← (r "privateNetworkUUID").optional Json.text?
  let tags ← (r "tags").default [] (Json.listOf? Json.text?)
  some { engine, version, numNodes, size, region, privateNetworkUuid, tags }

/-- The request for a database of the given name. -/
def createRequest (name : String) (p : Parameters) : CreateRequest where
  name := name
  engine := p.engine.getD ""
  version := p.version.getD ""
  size := p.size
  region := p.region
  numNodes := p.numNodes
  privateNetworkUuid := p.privateNetworkUuid.getD ""
  tags := p.tags

/-- A text, unset if it is empty. -/
def nonEmpty (s : String) : Option String := if s = "" then none else some s

/-- Take unset parameters from an observed database: the version from its engine,
its private network, and its tags. -/
def lateInitialize (p : Parameters) (observed : Database) : Parameters :=
  { p with
    version := p.version <|> nonEmpty observed.engine
    privateNetworkUuid := p.privateNetworkUuid <|> nonEmpty observed.privateNetworkUuid
    tags := if p.tags.isEmpty then observed.tags else p.tags }

end Parameters

end ClusterKeeper
