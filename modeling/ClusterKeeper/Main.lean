import ClusterKeeper.Json.Printer
import ClusterKeeper.Manifest.Resources
import ClusterKeeper.Operator.Basic

/-!
# The command line

With the argument `crdgen` the documents of the operator's resources are printed.
Without it the operator starts; where no object store is configured it says so and
ends.
-/

namespace ClusterKeeper

/-- The variables of the environment that matter. -/
def environmentNames : List String :=
  ["METRICS_PORT", "DIGITALOCEAN_API_URL", "RECONCILE_INTERVAL_SECS", "RUST_LOG"]

/-- Answer a question of the process. -/
def answerOperator (filter : Log.Filter) :
    (q : Operator.Question) → IO (Operator.Answer q)
  | .log entry => do
    if Log.Filter.shows filter entry then IO.println entry.toJson.render
  | .findStore => return .error "Failed to infer configuration"
  | .serve _ => return .signal

/-- Start the operator. -/
def startOperator : IO UInt32 := do
  let settings ← environmentNames.mapM fun name => do
    return (name, (← IO.getEnv name).map Utf8.encode)
  let environment := fun name => (settings.lookup name).join
  let result ← (Operator.start environment).runM
    (answerOperator (Log.Filter.ofEnvironment environment))
  match result with
  | .ok () => return 0
  | .error text =>
    IO.eprintln (Operator.lastWords text)
    return 1

end ClusterKeeper

/-- The command line. -/
def main (args : List String) : IO UInt32 := do
  if args = ["crdgen"] then
    IO.print ClusterKeeper.Manifest.stream
    return 0
  else ClusterKeeper.startOperator
