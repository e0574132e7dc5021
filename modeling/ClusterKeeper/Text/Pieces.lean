/-!
# Pieces of a text

* `cutWhere`: what stands between the characters of a kind.
-/

namespace ClusterKeeper.Text

/-- Cut at every character for which `p` holds. There is one piece more than there
are cuts. -/
def cutWhere (p : Char → Bool) : List Char → List (List Char)
  | [] => [[]]
  | c :: rest =>
    if p c then [] :: cutWhere p rest
    else
      match cutWhere p rest with
      | first :: more => (c :: first) :: more
      | [] => [[c]]

/-- Cut at every occurrence of a character. -/
def cutAt (mark : Char) : List Char → List (List Char) := cutWhere (· == mark)

/-- The words of a text, which spaces and line ends part. -/
def words (cs : List Char) : List (List Char) :=
  (cutWhere (fun c => c == ' ' || c == '\n') cs).filter (!·.isEmpty)

end ClusterKeeper.Text
