import ClusterKeeper.Database.Basic
import ClusterKeeper.Resource.Secret

/-!
# Connection details

What an application needs to reach a database, as bytes under keys. Empty texts
and a port of 0 are left out.

* `ConnectionDetails.ofDatabase`: the details of a database.
-/

namespace ClusterKeeper

/-- Bytes under keys, to be written to a secret. -/
abbrev ConnectionDetails := Dict Bytes

namespace ConnectionDetails

/-- Add a text under a key unless it is empty. -/
def addText (key value : String) (d : ConnectionDetails) : ConnectionDetails :=
  if value = "" then d else d.insert key (Utf8.encode value)

/-- Add a port unless it is 0. -/
def addPort (port : Int32) (d : ConnectionDetails) : ConnectionDetails :=
  if port = 0 then d else d.insert "port" (Utf8.encode (toString port.toInt))

/-- Add what the public connection says. -/
def addPublic (c : Connection) (d : ConnectionDetails) : ConnectionDetails :=
  d |> addText "uri" c.uri |> addText "endpoint" c.host |> addText "username" c.user
    |> addText "password" c.password |> addText "database" c.database |> addPort c.port

/-- Add what the private connection says. -/
def addPrivate (c : Connection) (d : ConnectionDetails) : ConnectionDetails :=
  d |> addText "privateUri" c.uri |> addText "privateEndpoint" c.host

/-- The details of a database. -/
def ofDatabase (db : Database) : ConnectionDetails :=
  let details :=
    match db.connection with
    | some c => addPublic c .empty
    | none => .empty
  match db.privateConnection with
  | some c => addPrivate c details
  | none => details

end ConnectionDetails

end ClusterKeeper
