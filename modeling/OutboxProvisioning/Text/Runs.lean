/-!
# Sets of characters as runs

A property of characters mostly holds for runs of neighbours. A set is given by where its runs
begin and where they end.

* `inRuns`: whether a character is in such a set.
-/

namespace OutboxProvisioning.Text

/-- Whether a character is in the set whose runs begin and end at the bounds, in turn and in
ascending order: the number of bounds at or below it is odd. -/
def inRuns (bounds : Array Nat) (c : Char) : Bool :=
  bounds.foldl (fun inside b => if b ≤ c.toNat then !inside else inside) false

end OutboxProvisioning.Text
