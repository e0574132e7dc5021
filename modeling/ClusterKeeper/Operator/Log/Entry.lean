import ClusterKeeper.Json.Basic

/-!
# Entries of the log

An entry has a level and a message, and every entry here is the operator's own.

* `Level.rank`: the order of the levels.
* `Entry.toJson`: the line of an entry.
-/

namespace ClusterKeeper.Log

/-- How much an entry matters. -/
inductive Level where
  | error
  | warn
  | info
  | debug
  | trace
  deriving DecidableEq, Repr

namespace Level

/-- The level as it is written. -/
def text : Level → String
  | .error => "ERROR"
  | .warn => "WARN"
  | .info => "INFO"
  | .debug => "DEBUG"
  | .trace => "TRACE"

/-- The number of a level: the more detail, the greater. -/
def rank : Level → Nat
  | .error => 1
  | .warn => 2
  | .info => 3
  | .debug => 4
  | .trace => 5

end Level

/-- An entry of the log. -/
structure Entry where
  level : Level
  message : String
  deriving DecidableEq, Repr

/-- The target of the operator's own entries. -/
def target : String := "digitalocean_database_operator"

/-- An entry as a line of the log. -/
def Entry.toJson (e : Entry) : Json := .obj [
  ("level", .str e.level.text),
  ("fields", .obj [("message", .str e.message)]),
  ("target", .str target)]

end ClusterKeeper.Log
