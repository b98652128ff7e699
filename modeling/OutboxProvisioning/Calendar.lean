/-!
# Calendar dates

Days are numbered from 1 January 1970, and named by the Gregorian calendar carried back and
forward without end. Years are counted from March, so that a leap day ends its year: four
years, a century less one day, and four centuries then repeat the same lengths.

* `Date.toDay`, `Date.ofDay`: the number of a date and the date of a number.
* `Date.toDay_ofDay`: going there and back.
-/

namespace OutboxProvisioning

/-- A year, a month from 1 and a day from 1. -/
structure Date where
  year : Int
  month : Nat
  day : Nat
deriving DecidableEq, Inhabited, Repr

namespace Date

/-- Every fourth year, except full centuries that 400 does not divide. -/
def isLeap (year : Int) : Bool := year % 4 = 0 && (year % 100 ≠ 0 || year % 400 = 0)

/-- The days of a month. -/
def daysIn (year : Int) (month : Nat) : Nat :=
  if month = 2 then if isLeap year then 29 else 28
  else if month = 4 || month = 6 || month = 9 || month = 11 then 30
  else 31

/-- A date that the calendar has. -/
def isValid (d : Date) : Bool :=
  1 ≤ d.month && d.month ≤ 12 && 1 ≤ d.day && d.day ≤ daysIn d.year d.month

/-- The day 1 March of the year 0. -/
def origin : Int := -719468

/-- Days from 1 March to the first of a month counted from March as 0. -/
def daysBefore (month : Nat) : Nat := (153 * month + 2) / 5

/-- Days from 1 March of the year 0 to 1 March of a year. -/
def daysToYear (year : Int) : Int := 365 * year + year / 4 - year / 100 + year / 400

/-- The number of a date. -/
def toDay (d : Date) : Int :=
  let early := d.month ≤ 2
  let year := if early then d.year - 1 else d.year
  let month := if early then d.month + 9 else d.month - 3
  origin + daysToYear year + daysBefore month + d.day - 1

/-- The date of a number. -/
def ofDay (n : Int) : Date :=
  let z := n - origin
  let inCycle := z % 146097
  let century := min (inCycle / 36524) 3
  let inCentury := inCycle - century * 36524
  let four := inCentury / 1461
  let inFour := inCentury % 1461
  let one := min (inFour / 365) 3
  let inYear := (inFour - one * 365).toNat
  let year := z / 146097 * 400 + century * 100 + four * 4 + one
  let month := (5 * inYear + 2) / 153
  let day := inYear - daysBefore month + 1
  if month < 10 then ⟨year, month + 3, day⟩ else ⟨year + 1, month - 9, day⟩

/-- The date of a number has that number. -/
theorem toDay_ofDay (n : Int) : (ofDay n).toDay = n := by
  simp only [ofDay]
  generalize hz : n - origin = z
  have hn : n = origin + z := by omega
  subst hn
  have hc1 : 0 ≤ z % 146097 := Int.emod_nonneg _ (by decide)
  have hc2 : z % 146097 < 146097 := Int.emod_lt_of_pos _ (by decide)
  have hzc := Int.mul_ediv_add_emod z 146097
  generalize z / 146097 = cycle at *
  generalize z % 146097 = inCycle at *
  generalize hcen : min (inCycle / 36524) 3 = century
  generalize hine : inCycle - century * 36524 = inCentury
  generalize hfour : inCentury / 1461 = four
  generalize hinf : inCentury % 1461 = inFour
  generalize hone : min (inFour / 365) 3 = one
  have h1 : 0 ≤ century ∧ century ≤ 3 ∧ 0 ≤ inCentury ∧ inCentury ≤ 36524 := by omega
  have h2 : 0 ≤ four ∧ four ≤ 24 ∧ 0 ≤ inFour ∧ inFour ≤ 1460 ∧
      inCentury = 1461 * four + inFour := by omega
  have h3 : 0 ≤ one ∧ one ≤ 3 ∧ 0 ≤ inFour - one * 365 ∧ inFour - one * 365 ≤ 365 := by omega
  obtain ⟨doy, hdoy⟩ : ∃ doy : Nat, inFour - one * 365 = doy :=
    ⟨_, (Int.toNat_of_nonneg h3.2.2.1).symm⟩
  have hlt : doy ≤ 365 := by omega
  simp only [hdoy, Int.toNat_natCast, daysBefore]
  have hyear : daysToYear (cycle * 400 + century * 100 + four * 4 + one) =
      146097 * cycle + 36524 * century + 1461 * four + 365 * one := by
    have h4 : (cycle * 400 + century * 100 + four * 4 + one) / 4 =
        100 * cycle + 25 * century + four := by omega
    have h100 : (cycle * 400 + century * 100 + four * 4 + one) / 100 = 4 * cycle + century := by
      omega
    have h400 : (cycle * 400 + century * 100 + four * 4 + one) / 400 = cycle := by omega
    unfold daysToYear
    rw [h4, h100, h400]
    omega
  have hday :
      daysBefore ((5 * doy + 2) / 153) + (doy - daysBefore ((5 * doy + 2) / 153)) = doy := by
    unfold daysBefore
    omega
  unfold daysBefore at hday
  split
  · next hm =>
    simp only [toDay, daysBefore]
    rw [if_neg (by omega), if_neg (by omega), Nat.add_sub_cancel, hyear]
    omega
  · next hm =>
    have hm2 : (5 * doy + 2) / 153 ≤ 11 := by omega
    simp only [toDay, daysBefore]
    rw [if_pos (by omega), if_pos (by omega), Int.add_sub_cancel, hyear,
      show (5 * doy + 2) / 153 - 9 + 9 = (5 * doy + 2) / 153 by omega]
    omega

end Date

end OutboxProvisioning
