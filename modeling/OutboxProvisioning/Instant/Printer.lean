import OutboxProvisioning.Instant

/-!
# Writing instants

`2024-05-01T12:00:00.5Z` without the zeros that lose nothing: a fraction has no, three, six or
nine digits. Years outside 0 to 9999 carry a sign. A leap second is written as one second more: as
second 60 at the end of a minute, and elsewhere just like the second that follows.
-/

namespace OutboxProvisioning.Instant

/-- A number with zeros before it up to a width. -/
def padded (width n : Nat) : List Char :=
  let digits := (toString n).toList
  List.replicate (width - digits.length) '0' ++ digits

/-- Four digits, or a sign and at least four digits. -/
def yearChars (year : Int) : List Char :=
  if 0 ≤ year && year ≤ 9999 then padded 4 year.toNat
  else (if year < 0 then '-' else '+') :: padded 4 year.natAbs

/-- The fraction of a second with the fewest of the usual digits. -/
def fractionChars (nano : Nat) : List Char :=
  if nano = 0 then []
  else if nano % 1000000 = 0 then '.' :: padded 3 (nano / 1000000)
  else if nano % 1000 = 0 then '.' :: padded 6 (nano / 1000)
  else '.' :: padded 9 nano

/-- The characters of an instant. -/
def chars (t : Instant) : List Char :=
  let second := t.second % 60 + if t.isLeap then 1 else 0
  let nano := if t.isLeap then t.nano - nanosPerSecond else t.nano
  yearChars t.date.year ++ '-' :: padded 2 t.date.month ++ '-' :: padded 2 t.date.day ++
    'T' :: padded 2 (t.second / 3600) ++ ':' :: padded 2 (t.second / 60 % 60) ++
    ':' :: padded 2 second ++ fractionChars nano ++ ['Z']

/-- The text of an instant. -/
def toString (t : Instant) : String := String.ofList t.chars

instance : ToString Instant := ⟨Instant.toString⟩

end OutboxProvisioning.Instant
