import OutboxProvisioning.Calendar

/-!
# Instants

A point in time is a day, a second of it and nanoseconds, in UTC. A second may be followed by a
leap second, which counts as more than a second of nanoseconds: any second, although only the last
one of a minute leaves room for it in a text. Years reach from -262143 to 262142.

* `Instant.make?`: an instant, if its parts are in range.
* `Instant.plusSeconds?`: an instant so many seconds later.
* `Instant.compareTo`: the order in time.
-/

namespace OutboxProvisioning

/-- Nanoseconds of a second. -/
abbrev nanosPerSecond : Nat := 1000000000

/-- Seconds of a day. -/
abbrev secondsPerDay : Nat := 86400

/-- The first day of the year -262143. -/
abbrev firstDay : Int := -96465292

/-- The last day of the year 262142. -/
abbrev lastDay : Int := 95026236

/-- A point in time. -/
structure Instant where
  /-- The day, counted from 1 January 1970. -/
  day : Int
  /-- The second of the day. -/
  second : Nat
  /-- Nanoseconds from its start: a second and more inside a leap second. -/
  nano : Nat
  day_ge : firstDay ≤ day
  day_le : day ≤ lastDay
  second_lt : second < secondsPerDay
  nano_lt : nano < 2 * nanosPerSecond
deriving DecidableEq

namespace Instant

/-- The start of 1970, for want of a better one. -/
instance : Inhabited Instant :=
  ⟨⟨0, 0, 0, by decide, by decide, by decide, by decide⟩⟩

/-- The instant with these parts, if they are in range. -/
def make? (day : Int) (second nano : Nat) : Option Instant :=
  if h : firstDay ≤ day ∧ day ≤ lastDay ∧ second < secondsPerDay ∧ nano < 2 * nanosPerSecond then
    some ⟨day, second, nano, h.1, h.2.1, h.2.2.1, h.2.2.2⟩
  else none

theorem make?_self (t : Instant) : make? t.day t.second t.nano = some t := by
  unfold make?
  rw [dif_pos ⟨t.day_ge, t.day_le, t.second_lt, t.nano_lt⟩]

/-- Whether an instant lies inside a leap second. -/
def isLeap (t : Instant) : Bool := nanosPerSecond ≤ t.nano

/-- Whole seconds from the start of 1970 to the second of an instant. -/
def seconds (t : Instant) : Int := t.day * secondsPerDay + t.second

/-- The order in time. -/
def compareTo (a b : Instant) : Ordering :=
  (compare a.day b.day).then ((compare a.second b.second).then (compare a.nano b.nano))

instance : Ord Instant := ⟨compareTo⟩

/-- The instant so many whole seconds after the start of 1970, if it is in range. -/
def ofSeconds? (seconds : Int) (nano : Nat) : Option Instant :=
  make? (seconds / secondsPerDay) (seconds % secondsPerDay).toNat nano

/-- An instant so many seconds later, or earlier for a negative number. Leaving a leap second
forward passes its end, leaving it backward its start. -/
def shift? (t : Instant) (n : Int) : Option Instant :=
  if n = 0 then some t
  else if t.isLeap then
    ofSeconds? (t.seconds + n + if n < 0 then 1 else 0) (t.nano - nanosPerSecond)
  else ofSeconds? (t.seconds + n) t.nano

/-- A word of 64 bits read with a sign. -/
def signed (n : UInt64) : Int :=
  if n.toNat < Nat.pow 2 63 then n.toNat else (n.toNat : Int) - Nat.pow 2 64

/-- An instant `n` seconds later. The number is taken as one with a sign, so that numbers from
`2 ^ 63` on lead backward. -/
def plusSeconds? (t : Instant) (n : UInt64) : Option Instant := t.shift? (signed n)

/-- The date of an instant. -/
def date (t : Instant) : Date := Date.ofDay t.day

/-- The start of the year 2000, from which databases count. -/
def databaseEpoch : Int := 10957 * secondsPerDay

/-- Microseconds from the start of 2000, cut off toward zero. -/
def microseconds (t : Instant) : Int :=
  Int.tdiv ((t.seconds - databaseEpoch) * nanosPerSecond + t.nano) 1000

/-- The instant so many microseconds after the start of 2000, if it is in range. -/
def ofMicroseconds? (n : Int) : Option Instant :=
  ofSeconds? (databaseEpoch + n / 1000000) ((n % 1000000).toNat * 1000)

end Instant

end OutboxProvisioning
