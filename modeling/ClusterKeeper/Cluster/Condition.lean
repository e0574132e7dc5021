import ClusterKeeper.Resource.Metadata

/-!
# Conditions

A condition says how a cluster does in one respect. The condition of type Ready
carries the stage of its life as a reason.

* `Condition.put`: setting a condition replaces the first of its type.
* `Reason.parse?`, `Reason.condition`: reasons as texts and as conditions.
-/

namespace ClusterKeeper

/-- One respect in which a cluster does well or not. -/
structure Condition where
  type : String
  status : String
  lastTransitionTime : Instant
  reason : Option String := none
  message : Option String := none
  deriving DecidableEq, Repr

namespace Condition

/-- The type of the condition that carries the stage of life. -/
def readyType : String := "Ready"

/-- The written form. -/
def toJson (c : Condition) : Json := .fields [
  ("type", some (.str c.type)),
  ("status", some (.str c.status)),
  ("lastTransitionTime", some c.lastTransitionTime.toJson),
  ("reason", c.reason.map .str),
  ("message", c.message.map .str)]

/-- Reading. -/
def ofJson? (j : Json) : Option Condition := do
  let r ← j.record? ["type", "status", "lastTransitionTime", "reason", "message"]
  let type ← (r "type").required Json.text?
  let status ← (r "status").required Json.text?
  let lastTransitionTime ← (r "lastTransitionTime").required Instant.ofJson?
  let reason ← (r "reason").optional Json.text?
  let message ← (r "message").optional Json.text?
  some { type, status, lastTransitionTime, reason, message }

/-- Set a condition: it takes the place of the first one of its type, unless status
and reason stay as they are, or else is appended. -/
def put (c : Condition) : List Condition → List Condition
  | [] => [c]
  | first :: rest =>
    if first.type = c.type then
      if first.status ≠ c.status ∨ first.reason ≠ c.reason then c :: rest else first :: rest
    else first :: put c rest

end Condition

/-- The stage of a cluster's life. -/
inductive Reason where
  | creating
  | available
  | unavailable
  | deleting
  deriving DecidableEq, Repr

namespace Reason

/-- The reason as a text. -/
def text : Reason → String
  | .creating => "Creating"
  | .available => "Available"
  | .unavailable => "Unavailable"
  | .deleting => "Deleting"

/-- The reason that a text names. -/
def parse? (s : String) : Option Reason :=
  if s = "Creating" then some .creating
  else if s = "Available" then some .available
  else if s = "Unavailable" then some .unavailable
  else if s = "Deleting" then some .deleting
  else none

/-- The Ready condition with this reason, which holds only for an available cluster. -/
def condition (r : Reason) (now : Instant) : Condition where
  type := Condition.readyType
  status := if r = .available then "True" else "False"
  lastTransitionTime := now
  reason := some r.text

/-- The reason for a status that the remote API reports, if it calls for one. -/
def ofRemoteStatus? (status : String) : Option Reason :=
  if status = "creating" then some .creating
  else if status = "online" then some .available
  else if status = "forking" then some .unavailable
  else none

end Reason

end ClusterKeeper
