/-!
# Natural numbers in texts

* `digits?`: digits alone.
* `natural?`: digits, perhaps after a plus, of a number below a bound.
-/

namespace OutboxProvisioning.Text

/-- The value of a text of digits alone, at least one. -/
def digits? (cs : List Char) : Option Nat :=
  if cs.isEmpty || !cs.all Char.isDigit then none
  else some (cs.foldl (fun n c => n * 10 + (c.toNat - 48)) 0)

/-- A natural number below a bound, perhaps with a plus. -/
def natural? (bound : Nat) (cs : List Char) : Option Nat :=
  let body := match cs with
    | '+' :: r => r
    | _ => cs
  (digits? body).filter (· < bound)

end OutboxProvisioning.Text
