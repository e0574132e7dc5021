import ClusterKeeper.Operator.Log.Directive
import ClusterKeeper.Text.Pieces

/-!
# The filter of the log

Which entries are shown is set by a list of directives: of those that apply, the most
special decides, and where none applies nothing is shown.

* `Filter.ofEnvironment`: the filter that the environment asks for.
* `Filter.shows`: whether an entry is shown.
-/

namespace ClusterKeeper.Log

/-- The directives of a filter, in the order in which they were given. -/
abbrev Filter := List Directive

namespace Filter

/-- The filter that a text asks for. One without any directive shows errors. -/
def parse? (s : String) : Option Filter := do
  let pieces := (Text.cutAt ',' s.toList).filter (!·.isEmpty)
  let directives ← pieces.mapM Directive.ofPiece?
  some (if directives.isEmpty then [⟨none, none, 1⟩] else directives.filterMap id)

/-- The filter that is used unless another is asked for. -/
def standard : Filter := [⟨none, none, 3⟩, ⟨some (Utf8.encode target), none, 4⟩]

/-- The filter that the environment asks for, or else the standard one. -/
def ofEnvironment (environment : String → Option (List UInt8)) : Filter :=
  let asked? := do
    let bytes ← environment "RUST_LOG"
    let text ← (Utf8.decode bytes).toOption
    parse? text
  asked?.getD standard

/-- The more special of two directives, of equals the later. -/
def better (best : Option Directive) (d : Directive) : Option Directive :=
  match best with
  | some b => if d.atLeast b then some d else some b
  | none => some d

/-- Whether an entry of the operator is shown. -/
def shows (f : Filter) (e : Entry) : Bool :=
  match (f.filter Directive.applies).foldl better none with
  | some d => e.level.rank ≤ d.rank
  | none => false

end Filter

end ClusterKeeper.Log
