import ClusterKeeper.Error
import ClusterKeeper.Text.Numeral
import ClusterKeeper.Text.Utf8

/-!
# Configuration

Three variables of the environment set the port of the metrics server, the address
of the remote API and the interval between reconciles. A variable whose value is
no text counts as unset.

* `Config.ofEnvironment`: the configuration, or the first variable that is wrong.
* `Config.isWebUrl`: which addresses are accepted.
-/

namespace ClusterKeeper

/-- How the operator is set up. -/
structure Config where
  metricsPort : Nat := 8080
  apiUrl : String := "https://api.digitalocean.com"
  /-- Seconds between reconciles of a settled cluster. -/
  reconcileInterval : Nat := 60
  deriving DecidableEq, Repr, Inhabited

namespace Config

/-- Which variable is wrong, and how. -/
inductive Fault where
  | metricsPort (value : String) (fault : Numeral.Fault)
  | apiUrl (value : String)
  | interval (value : String) (fault : Numeral.Fault)
  | zeroInterval
  deriving DecidableEq, Repr

/-- The fault in words. -/
def Fault.message : Fault → String
  | .metricsPort value fault => s!"invalid METRICS_PORT {Text.quoted value}: {fault.message}"
  | .apiUrl value => s!"DIGITALOCEAN_API_URL must start with http:// or https://, got: {value}"
  | .interval value fault =>
    s!"invalid RECONCILE_INTERVAL_SECS {Text.quoted value}: {fault.message}"
  | .zeroInterval => "RECONCILE_INTERVAL_SECS must be >= 1"

/-- The fault as an error. -/
def Fault.error (f : Fault) : Error := .config f.message

/-- Whether the address starts with a scheme of the web. -/
def isWebUrl (url : String) : Bool := "http://".isPrefixOf url || "https://".isPrefixOf url

/-- The text of a variable, if it is set to one. -/
def setting? (environment : String → Option (List UInt8)) (name : String) : Option String :=
  (environment name).bind fun bytes => (Utf8.decode bytes).toOption

/-- The port of the metrics server. -/
def readPort : Option String → Except Fault Nat
  | none => .ok ({} : Config).metricsPort
  | some value => (Numeral.read 65536 value).mapError (.metricsPort value)

/-- The address of the remote API. -/
def readUrl : Option String → Except Fault String
  | none => .ok ({} : Config).apiUrl
  | some value => if isWebUrl value then .ok value else .error (.apiUrl value)

/-- The interval between reconciles. -/
def readInterval : Option String → Except Fault Nat
  | none => .ok ({} : Config).reconcileInterval
  | some value =>
    match Numeral.read 18446744073709551616 value with
    | .error fault => .error (.interval value fault)
    | .ok 0 => .error .zeroInterval
    | .ok secs => .ok secs

/-- The configuration that the environment asks for. -/
def ofEnvironment (environment : String → Option (List UInt8)) : Except Fault Config := do
  let metricsPort ← readPort (setting? environment "METRICS_PORT")
  let apiUrl ← readUrl (setting? environment "DIGITALOCEAN_API_URL")
  let reconcileInterval ← readInterval (setting? environment "RECONCILE_INTERVAL_SECS")
  return { metricsPort, apiUrl, reconcileInterval }

end Config

end ClusterKeeper
