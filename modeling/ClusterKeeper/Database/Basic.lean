import ClusterKeeper.Resource.Metadata

/-!
# Databases of the remote API

A database as the remote API describes it, and the request that asks for one.

* `Database.ofJson?`, `Database.toJson`: its JSON form, all members but the
  identifier with defaults.
* `CreateRequest.toJson`: empty optional members are left out.
-/

namespace ClusterKeeper

/-- How to reach a database. -/
structure Connection where
  uri : String := ""
  database : String := ""
  host : String := ""
  port : Int32 := 0
  user : String := ""
  password : String := ""
  ssl : Bool := false
  deriving DecidableEq, Repr, Inhabited

namespace Connection

/-- The written form. -/
def toJson (c : Connection) : Json := .fields [
  ("uri", some (.str c.uri)),
  ("database", some (.str c.database)),
  ("host", some (.str c.host)),
  ("port", some (.int c.port.toInt)),
  ("user", some (.str c.user)),
  ("password", some (.str c.password)),
  ("ssl", some (.bool c.ssl))]

/-- Reading. -/
def ofJson? (j : Json) : Option Connection := do
  let r ← j.record? ["uri", "database", "host", "port", "user", "password", "ssl"]
  let uri ← (r "uri").default "" Json.text?
  let database ← (r "database").default "" Json.text?
  let host ← (r "host").default "" Json.text?
  let port ← (r "port").default 0 Json.int32?
  let user ← (r "user").default "" Json.text?
  let password ← (r "password").default "" Json.text?
  let ssl ← (r "ssl").default false Json.flag?
  some { uri, database, host, port, user, password, ssl }

end Connection

/-- A database as the remote API describes it. -/
structure Database where
  id : String
  name : String := ""
  engine : String := ""
  version : String := ""
  connection : Option Connection := none
  privateConnection : Option Connection := none
  numNodes : Int32 := 0
  size : String := ""
  region : String := ""
  status : String := ""
  createdAt : Option Instant := none
  privateNetworkUuid : String := ""
  tags : List String := []
  deriving DecidableEq, Repr

namespace Database

/-- The names of the members in their declared order. -/
def memberNames : List String :=
  ["id", "name", "engine", "version", "connection", "private_connection", "num_nodes", "size",
    "region", "status", "created_at", "private_network_uuid", "tags"]

/-- The written form. -/
def toJson (d : Database) : Json := .fields [
  ("id", some (.str d.id)),
  ("name", some (.str d.name)),
  ("engine", some (.str d.engine)),
  ("version", some (.str d.version)),
  ("connection", some (.ofOption Connection.toJson d.connection)),
  ("private_connection", some (.ofOption Connection.toJson d.privateConnection)),
  ("num_nodes", some (.int d.numNodes.toInt)),
  ("size", some (.str d.size)),
  ("region", some (.str d.region)),
  ("status", some (.str d.status)),
  ("created_at", some (.ofOption Instant.toJson d.createdAt)),
  ("private_network_uuid", some (.str d.privateNetworkUuid)),
  ("tags", some (.list .str d.tags))]

/-- Reading. -/
def ofJson? (j : Json) : Option Database := do
  let r ← j.record? memberNames
  let id ← (r "id").required Json.text?
  let name ← (r "name").default "" Json.text?
  let engine ← (r "engine").default "" Json.text?
  let version ← (r "version").default "" Json.text?
  let connection ← (r "connection").optionalDefault Connection.ofJson?
  let privateConnection ← (r "private_connection").optionalDefault Connection.ofJson?
  let numNodes ← (r "num_nodes").default 0 Json.int32?
  let size ← (r "size").default "" Json.text?
  let region ← (r "region").default "" Json.text?
  let status ← (r "status").default "" Json.text?
  let createdAt ← (r "created_at").optionalDefault Instant.ofJson?
  let privateNetworkUuid ← (r "private_network_uuid").default "" Json.text?
  let tags ← (r "tags").default [] (Json.listOf? Json.text?)
  some { id, name, engine, version, connection, privateConnection, numNodes, size, region, status,
         createdAt, privateNetworkUuid, tags }

end Database

/-- What is asked for when a database is created. -/
structure CreateRequest where
  name : String
  engine : String
  version : String
  size : String
  region : String
  numNodes : Int32
  privateNetworkUuid : String
  tags : List String
  deriving DecidableEq, Repr

namespace CreateRequest

/-- The written form. -/
def toJson (c : CreateRequest) : Json := .fields [
  ("name", some (.str c.name)),
  ("engine", some (.str c.engine)),
  ("version", Json.textUnlessEmpty c.version),
  ("size", some (.str c.size)),
  ("region", some (.str c.region)),
  ("num_nodes", some (.int c.numNodes.toInt)),
  ("private_network_uuid", Json.textUnlessEmpty c.privateNetworkUuid),
  ("tags", Json.listUnlessEmpty .str c.tags)]

/-- Reading: every member is required. -/
def ofJson? (j : Json) : Option CreateRequest := do
  let r ← j.record? ["name", "engine", "version", "size", "region", "num_nodes",
    "private_network_uuid", "tags"]
  let name ← (r "name").required Json.text?
  let engine ← (r "engine").required Json.text?
  let version ← (r "version").required Json.text?
  let size ← (r "size").required Json.text?
  let region ← (r "region").required Json.text?
  let numNodes ← (r "num_nodes").required Json.int32?
  let privateNetworkUuid ← (r "private_network_uuid").required Json.text?
  let tags ← (r "tags").required (Json.listOf? Json.text?)
  some { name, engine, version, size, region, numNodes, privateNetworkUuid, tags }

end CreateRequest

end ClusterKeeper
