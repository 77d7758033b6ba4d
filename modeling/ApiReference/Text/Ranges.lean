/-!
Sets of characters given by sorted lists of closed ranges of code points.
-/

namespace ApiReference.Text

/-- Whether a sorted list of closed ranges covers `n`: the search ends at the first range that
starts above `n`. -/
def covers : List (Nat × Nat) → Nat → Bool
  | [], _ => false
  | (low, high) :: rest, n => if n < low then false else n ≤ high || covers rest n

end ApiReference.Text
