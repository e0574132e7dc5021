import ClusterKeeper.Metrics.Basic

/-!
# The metrics page

A registry as text: for each family that has samples a line of help, one of its
type, and a line for each sample. Families stand in the order of their names and
samples in that of their labels.

* `Registry.page`: the page.
-/

namespace ClusterKeeper.Metrics

/-- A label of a sample. -/
abbrev Label := String × String

/-- A line of a family. -/
structure Sample where
  /-- What follows the family's name. -/
  suffix : String := ""
  labels : List Label
  value : String

/-- Samples of one kind. -/
structure Family where
  name : String
  help : String
  type : String
  samples : List Sample

/-- One character of a label's value. -/
def labelChar (c : Char) : List Char :=
  if c = '\\' then ['\\', '\\']
  else if c = '"' then ['\\', '"']
  else if c = '\n' then ['\\', 'n']
  else [c]

/-- A label as it is written. -/
def labelText (l : Label) : String :=
  l.1 ++ "=\"" ++ String.ofList (l.2.toList.flatMap labelChar) ++ "\""

/-- The labels of a sample as they are written. -/
def labelsText (ls : List Label) : String :=
  if ls.isEmpty then "" else "\x7b" ++ ",".intercalate (ls.map labelText) ++ "\x7d"

/-- The lines of a family, none if it has no samples. -/
def Family.lines (f : Family) : List String :=
  if f.samples.isEmpty then []
  else
    s!"# HELP {f.name} {f.help}" :: s!"# TYPE {f.name} {f.type}" ::
      f.samples.map fun s => f.name ++ s.suffix ++ labelsText s.labels ++ " " ++ s.value

/-- The name of a family of the operator. -/
def familyName (name : String) : String := s!"digitalocean_database_operator_{name}"

/-- The label that all reconciles have. -/
def kindLabel : Label := ("kind", "DODatabaseCluster")

/-- A count of reconciles, which is no sample before the first. -/
def countSamples (n : Nat) : List Sample :=
  if n = 0 then [] else [⟨"", [kindLabel], toString n⟩]

/-- Whether one text stands before another or is it. -/
def textLe (a b : String) : Bool := a == b || decide (a < b)

/-- Whether one count stands before another: by operation, then failures first. -/
def externalLe (a b : ExternalCount) : Bool :=
  if a.operation = b.operation then !a.success || b.success else decide (a.operation < b.operation)

/-- A result as a label. -/
def resultText (success : Bool) : String := if success then "success" else "error"

/-- A truth value as a gauge shows it. -/
def gaugeText (b : Bool) : String := if b then "1" else "0"

/-- The upper bounds of the buckets of durations, in microseconds and as they are
written. -/
def buckets : List (Nat × String) :=
  [(10000, "0.01"), (50000, "0.05"), (100000, "0.1"), (250000, "0.25"), (500000, "0.5"),
    (1000000, "1"), (2500000, "2.5"), (5000000, "5"), (10000000, "10")]

/-- Microseconds as seconds, without zeros at the end. -/
def secondsText (micros : Nat) : String :=
  let fraction := Nat.toDigits 10 (1000000 + micros % 1000000) |>.drop 1
  let shown := (fraction.reverse.dropWhile (· == '0')).reverse
  if shown.isEmpty then toString (micros / 1000000)
  else toString (micros / 1000000) ++ "." ++ String.ofList shown

/-- The samples of the durations: buckets, sum and count. -/
def durationSamples (durations : List Nat) : List Sample :=
  if durations.isEmpty then []
  else
    let bucket := fun (label : String) (n : Nat) =>
      (⟨"_bucket", [kindLabel, ("le", label)], toString n⟩ : Sample)
    buckets.map (fun (bound, label) => bucket label (durations.countP (· ≤ bound))) ++
      [bucket "+Inf" durations.length,
        ⟨"_sum", [kindLabel], secondsText (durations.foldl (· + ·) 0)⟩,
        ⟨"_count", [kindLabel], toString durations.length⟩]

namespace Registry

/-- The families in the order of their names. -/
def families (r : Registry) : List Family := [
  { name := familyName "cluster_available"
    help := "Whether a database cluster is Available (1) or not (0)"
    type := "gauge"
    samples := (r.available.mergeSort fun a b => textLe a.1 b.1).map fun (name, available) =>
      ⟨"", [("name", name)], gaugeText available⟩ },
  { name := familyName "external_operations_total"
    help := "DigitalOcean API calls by operation and result"
    type := "counter"
    samples := (r.external.mergeSort externalLe).map fun e =>
      ⟨"", [("operation", e.operation), ("result", resultText e.success)], toString e.count⟩ },
  { name := familyName "health"
    help := "Operator health status (1 = healthy, 0 = unhealthy)"
    type := "gauge"
    samples := [⟨"", [], gaugeText r.healthy⟩] },
  { name := familyName "reconcile_duration_seconds"
    help := "Duration of reconciliations in seconds"
    type := "histogram"
    samples := durationSamples r.durations },
  { name := familyName "reconciliation_errors_total"
    help := "Total number of reconciliation errors"
    type := "counter"
    samples := countSamples r.reconciliationErrors },
  { name := familyName "reconciliations_total"
    help := "Total number of reconciliations"
    type := "counter"
    samples := countSamples r.reconciliations }]

/-- The page: each line ends in a newline. -/
def page (r : Registry) : String :=
  String.join ((r.families.flatMap Family.lines).map (· ++ "\n"))

end Registry

end ClusterKeeper.Metrics
