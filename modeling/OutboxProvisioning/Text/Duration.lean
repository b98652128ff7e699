/-!
# Durations in words

A duration is shown in the largest unit of which it has at least one: seconds with as many
decimals as it takes, or milliseconds.
-/

namespace OutboxProvisioning.Text

/-- The decimals of so many thousandths, without zeros at the end. -/
def decimals (thousandths : Nat) : List Char :=
  let digits := (Nat.toDigits 10 (1000 + thousandths)).drop 1
  (digits.reverse.dropWhile (· = '0')).reverse

/-- So many milliseconds. -/
def duration (milliseconds : Nat) : String :=
  let seconds := milliseconds / 1000
  let rest := milliseconds % 1000
  if 0 < seconds then
    toString seconds ++ (if rest = 0 then "" else "." ++ String.ofList (decimals rest)) ++ "s"
  else if 0 < rest then toString rest ++ "ms"
  else "0ns"

end OutboxProvisioning.Text
