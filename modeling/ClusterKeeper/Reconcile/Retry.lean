import ClusterKeeper.Prog

/-!
# Trying again

* `Prog.retry`: try something until it succeeds or the attempts are used up.
-/

namespace ClusterKeeper.Prog

variable {I : Interface} {ε α : Type}

/-- Try at most `attempts` times, and once in any case, with a pause after each
failure but the last. The result is that of the last try. -/
def retry (pause : Prog I Unit) (op : Prog I (Except ε α)) :
    (attempts : Nat) → Prog I (Except ε α)
  -- no attempts at all still make one
  | 0 => op
  | 1 => op
  | left + 2 =>
    op.bind fun
      | .ok a => .done (.ok a)
      | .error _ => pause.bind fun _ => retry pause op (left + 1)

end ClusterKeeper.Prog
