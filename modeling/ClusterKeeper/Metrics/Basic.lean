/-!
# Metrics

What the operator counts. Work tells of it as events, and a registry adds them up.

* `Registry.record`: what an event adds.
* `Registry.externalCount`: how often calls of an operation ended so.
-/

namespace ClusterKeeper.Metrics

/-- Something that is counted. -/
inductive Event where
  | reconcileStarted
  | reconcileEnded (failed : Bool)
  /-- A call of the remote API ended. -/
  | externalCall (operation : String) (success : Bool)
  /-- Whether the cluster with a name is available. -/
  | availability (name : String) (available : Bool)
  /-- The cluster with a name is going. -/
  | forgotten (name : String)
  deriving DecidableEq, Repr

/-- How often the calls of an operation ended in one way. -/
structure ExternalCount where
  operation : String
  success : Bool
  count : Nat
  deriving DecidableEq, Repr

/-- Everything counted so far. -/
structure Registry where
  reconciliations : Nat := 0
  reconciliationErrors : Nat := 0
  /-- Microseconds that each reconcile took, the last one first. -/
  durations : List Nat := []
  external : List ExternalCount := []
  available : List (String × Bool) := []
  healthy : Bool := false
  deriving DecidableEq, Repr, Inhabited

namespace Registry

/-- Count one more call. -/
def bump (operation : String) (success : Bool) : List ExternalCount → List ExternalCount
  | [] => [⟨operation, success, 1⟩]
  | e :: rest =>
    if e.operation = operation ∧ e.success = success then { e with count := e.count + 1 } :: rest
    else e :: bump operation success rest

/-- Drop the entry of a name. -/
def dropName (name : String) (entries : List (String × Bool)) : List (String × Bool) :=
  entries.filter fun e => e.1 != name

/-- Add an event. A reconcile that ends took `micros` microseconds. -/
def record (r : Registry) (micros : Nat) : Event → Registry
  | .reconcileStarted => { r with reconciliations := r.reconciliations + 1 }
  | .reconcileEnded failed =>
    { r with
      durations := micros :: r.durations
      reconciliationErrors := r.reconciliationErrors + if failed then 1 else 0 }
  | .externalCall operation success => { r with external := bump operation success r.external }
  | .availability name available =>
    { r with available := (name, available) :: dropName name r.available }
  | .forgotten name => { r with available := dropName name r.available }

/-- How often the calls of an operation ended in one way. -/
def externalCount (r : Registry) (operation : String) (success : Bool) : Nat :=
  match r.external.find? fun e => e.operation = operation ∧ e.success = success with
  | some e => e.count
  | none => 0

/-- What the gauge of a name says, if it says anything. -/
def availability? (r : Registry) (name : String) : Option Bool := r.available.lookup name

end Registry

end ClusterKeeper.Metrics
