import OutboxProvisioning.Instant
import OutboxProvisioning.Text.Blank

/-!
# Reading instants

A date and a time of day with an offset from UTC: `2024-05-01T12:00:00+02:00`. White space may
stand between the parts, months and days may have one digit, the letter between date and time
may be a blank, and the offset may be `Z` or `UTC`. Parts are checked as they are read, so the
first one out of range is the one refused.

* `Instant.ofString`: the instant that a text spells.
-/

namespace OutboxProvisioning.Instant

/-- Why a text spells no instant. -/
inductive Flaw
  | outOfRange
  | invalid
  | tooShort
  | trailing
  /-- The local time exists, but not the instant it stands for. -/
  | impossible
deriving DecidableEq, Repr

/-- The words for a flaw. -/
def Flaw.message : Flaw → String
  | .outOfRange => "input is out of range"
  | .invalid => "input contains invalid characters"
  | .tooShort => "premature end of input"
  | .trailing => "trailing input"
  | .impossible => "no possible date and time matching input"

/-- The value of a run of digits. -/
def digitsValue (ds : List Char) : Nat := ds.foldl (fun n c => n * 10 + (c.toNat - 48)) 0

/-- The largest number that is told apart from those out of range. -/
def largest : Nat := Nat.pow 2 63 - 1

/-- The longest run of at most `width` digits, at least one. -/
def number (width : Nat) (s : List Char) : Except Flaw (Nat × List Char) :=
  match s with
  | [] => .error .tooShort
  | c :: _ =>
    if !c.isDigit then .error .invalid
    else
      let ds := (s.take width).takeWhile Char.isDigit
      if largest < digitsValue ds then .error .outOfRange
      else .ok (digitsValue ds, s.drop ds.length)

/-- White space before a part. -/
def skipBlanks (s : List Char) : List Char := s.dropWhile Text.isBlank

/-- A part of at most two digits in a range. -/
def part (low high : Nat) (s : List Char) : Except Flaw (Nat × List Char) :=
  match number 2 (skipBlanks s) with
  | .error f => .error f
  | .ok (n, r) => if low ≤ n && n ≤ high then .ok (n, r) else .error .outOfRange

/-- A mark between parts, after white space. -/
def mark (c : Char) (s : List Char) : Except Flaw (List Char) :=
  match skipBlanks s with
  | [] => .error .tooShort
  | d :: r => if d = c then .ok r else .error .invalid

/-- A year: up to four digits, or a sign and any number of digits. -/
def year (s : List Char) : Except Flaw (Int × List Char) :=
  let limited (n : Int) (r : List Char) : Except Flaw (Int × List Char) :=
    if -(Nat.pow 2 31 : Int) ≤ n && n < Nat.pow 2 31 then .ok (n, r) else .error .outOfRange
  match skipBlanks s with
  | [] => .error .tooShort
  | c :: r =>
    if c = '-' then (number r.length r).bind fun (n, r) => limited (-n) r
    else if c = '+' then (number r.length r).bind fun (n, r) => limited n r
    else (number 4 (c :: r)).bind fun (n, r) => limited n r

/-- The letter or blank between date and time. -/
def separator : List Char → Except Flaw (List Char)
  | [] => .error .tooShort
  | c :: r => if c = 't' || c = 'T' || c = ' ' then .ok r else .error .invalid

/-- A fraction of a second in nanoseconds; digits after the ninth are left out. -/
def fraction : List Char → Except Flaw (Nat × List Char)
  | [] => .ok (0, [])
  | c :: r =>
    if c = '.' then
      match number 9 r with
      | .error f => .error f
      | .ok (n, rest) =>
        .ok (n * Nat.pow 10 (9 - (r.length - rest.length)), rest.dropWhile Char.isDigit)
    else .ok (0, c :: r)

/-- The two characters of a pair of digits. -/
def pair : List Char → Except Flaw (Char × Char × List Char)
  | [] => .error .tooShort
  | [c] => if c.toNat < 128 then .error .tooShort else .error .invalid
  | a :: b :: r => .ok (a, b, r)

/-- An offset in seconds after its sign: hours, separators, minutes. -/
def offsetSize (s : List Char) : Except Flaw (Nat × List Char) := do
  let (a, b, r) ← pair s
  if !(a.isDigit && b.isDigit) then throw .invalid
  let (c, d, r) ← pair (r.dropWhile fun c => c = ':' || Text.isBlank c)
  if !(c.isDigit && d.isDigit) then throw .invalid
  if '6' ≤ c then throw .outOfRange
  return (digitsValue [a, b] * 3600 + digitsValue [c, d] * 60, r)

/-- An offset from UTC in seconds: `Z`, or a sign, hours and minutes. -/
def signedOffset : List Char → Except Flaw (Int × List Char)
  | [] => .error .tooShort
  | c :: r =>
    if c = 'Z' || c = 'z' then .ok (0, r)
    else if c = '+' then (offsetSize r).map fun (n, r) => ((n : Int), r)
    else if c = '-' || c = '−' then (offsetSize r).map fun (n, r) => (-(n : Int), r)
    else .error .invalid

/-- An offset from UTC in seconds, where `UTC` is none. -/
def offset (s : List Char) : Except Flaw (Int × List Char) :=
  if (s.take 3).map Char.toLower = ['u', 't', 'c'] then .ok (0, s.drop 3) else signedOffset s

/-- The parts of a text as they are read. -/
structure Parts where
  date : Date
  hour : Nat
  minute : Nat
  /-- 60 in a leap second. -/
  second : Nat
  nano : Nat
  offset : Int

/-- Reads the parts of an instant. -/
def parts (s : List Char) : Except Flaw (Parts × List Char) := do
  let (y, s) ← year s
  let s ← mark '-' s
  let (m, s) ← part 1 12 s
  let s ← mark '-' s
  let (d, s) ← part 1 31 s
  let s ← separator s
  let (hour, s) ← part 0 23 s
  let s ← mark ':' s
  let (minute, s) ← part 0 59 s
  let s ← mark ':' s
  let (second, s) ← part 0 60 s
  let (nano, s) ← fraction s
  let (offset, s) ← offset (skipBlanks s)
  return (⟨⟨y, m, d⟩, hour, minute, second, nano, offset⟩, s)

/-- The time of day of some parts: its second, and nanoseconds that include a leap second. -/
def Parts.time (p : Parts) : Nat × Nat :=
  let leap := p.second = 60
  (p.hour * 3600 + p.minute * 60 + (if leap then 59 else p.second),
    p.nano + if leap then nanosPerSecond else 0)

/-- The instant that parts stand for. -/
def Parts.instant (p : Parts) : Except Flaw Instant :=
  let (second, nano) := p.time
  if !p.date.isValid || (make? p.date.toDay second nano).isNone then .error .outOfRange
  else if secondsPerDay ≤ p.offset.natAbs then .error .outOfRange
  else
    match ofSeconds? (p.date.toDay * secondsPerDay + second - p.offset) nano with
    | some t => .ok t
    | none => .error .impossible

/-- The instant that characters spell. -/
def ofChars (s : List Char) : Except Flaw Instant :=
  match parts s with
  | .error f => .error f
  | .ok (p, r) => if (skipBlanks r).isEmpty then p.instant else .error .trailing

/-- The instant that a text spells. -/
def ofString (s : String) : Except Flaw Instant := ofChars s.toList

end OutboxProvisioning.Instant
