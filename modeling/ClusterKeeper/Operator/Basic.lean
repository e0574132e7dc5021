import ClusterKeeper.Config
import ClusterKeeper.Operator.Log.Filter
import ClusterKeeper.Prog

/-!
# The operator as a process

From the environment to the last line of the log: read the configuration, find the
object store, then keep the metrics server and the controller running until one of
them ends or a signal comes.

* `Operator.start`: the process.
-/

namespace ClusterKeeper.Operator

/-- What ended the work of the process. -/
inductive Ending where
  | controller
  | metricsServer
  | signal
  deriving DecidableEq, Repr

/-- What the log says of it. -/
def Ending.entry : Ending → Log.Entry
  | .controller => ⟨.error, "Database cluster controller exited unexpectedly"⟩
  | .metricsServer => ⟨.error, "Metrics server exited unexpectedly"⟩
  | .signal => ⟨.info, "Received shutdown signal, stopping operator"⟩

/-- What the process asks of the system. -/
inductive Question where
  | log (entry : Log.Entry)
  /-- Find the object store. -/
  | findStore
  /-- Run the metrics server and the controller until something ends them. -/
  | serve (config : Config)

/-- The answers. -/
@[reducible] def Answer : Question → Type
  | .log _ => Unit
  | .findStore => Except String Unit
  | .serve _ => Ending

/-- The interface of the process to the system. -/
@[reducible] def interface : Interface := ⟨Question, Answer⟩

/-- Write an entry to the log. -/
def log (e : Log.Entry) : Prog interface Unit := Prog.query (I := interface) (.log e)

/-- Write a message to the log. -/
def inform (message : String) : Prog interface Unit := log ⟨.info, message⟩

/-- The work of the process once it is configured. -/
def operate (config : Config) : Prog interface (Except String Unit) := do
  inform s!"Using DigitalOcean API at {config.apiUrl}"
  match ← Prog.query (I := interface) .findStore with
  | .error text => return .error text
  | .ok () =>
    inform "Connected to Kubernetes API server"
    inform s!"Metrics server starting on port {config.metricsPort}"
    let ending ← Prog.query (I := interface) (.serve config)
    log ending.entry
    inform "DigitalOcean Database Operator stopped"
    return .ok ()

/-- The process. It fails with the text of an error. -/
def start (environment : String → Option (List UInt8)) : Prog interface (Except String Unit) := do
  inform "Starting DigitalOcean Database Operator"
  match Config.ofEnvironment environment with
  | .error fault => return .error fault.error.message
  | .ok config => operate config

/-- The last words of a process that fails. -/
def lastWords (text : String) : String := s!"Error: {text}"

/-- The status with which a process ends. -/
def exitStatus : Except String Unit → Nat
  | .ok () => 0
  | .error _ => 1

end ClusterKeeper.Operator
