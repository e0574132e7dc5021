import ClusterKeeper.Url.Domain.Label

/-!
# Domain names

A name in any script is written in ASCII. Its characters are replaced by those that
they stand for and the text is composed; then each label is written on its own.

* `toAscii?`: the name as it is written.
-/

namespace ClusterKeeper.Domain

/-- The characters that no name may hold, among those of ASCII. -/
def isForbidden (c : Char) : Bool :=
  c.toNat ≤ 32 || c.toNat == 127 ||
    ['#', '/', ':', '<', '>', '?', '@', '[', '\\', ']', '^', '|', '%'].contains c

/-- The characters that a name stands for. -/
def mapped? (cs : List Char) : Option (List Char) :=
  if cs.all isAscii then some (cs.map Char.toLower)
  else (cs.mapM image?).map fun images => Text.composed images.flatten

/-- Whether the directions of the labels fit together. They do not matter unless one
of the labels runs to the left. -/
def inDirection (labels : List Label) : Bool :=
  !labels.any Label.runsLeft || labels.all Label.inDirection

/-- The name as it is written. -/
def toAscii? (cs : List Char) : Option (List Char) := do
  let name ← mapped? cs
  if name.any isForbidden then none
  let labels ← (Text.cutAt '.' name).mapM Label.ofChars?
  -- names within ASCII have one direction
  if labels.all (fun l => l.look.all isAscii) || inDirection labels then
    some (['.'].intercalate (labels.map Label.written))
  else none

end ClusterKeeper.Domain
