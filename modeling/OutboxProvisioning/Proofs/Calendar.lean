import OutboxProvisioning.Instant

/-!
# Dates of days

The date of a day is one that the calendar has, and dates of instants lie in years that are
written with six digits at most.

* `isValid_ofDay`: **every day has a date of the calendar.**
* `year_ofDay`: the years of instants.
-/

namespace OutboxProvisioning.Date

/-- The date of a day, by its year from March and its day in that year. Only a year that ends in a
leap day has a day 365. -/
theorem ofDay_cases (n : Int) : ∃ (year : Int) (inYear : Nat), inYear ≤ 365 ∧
    (inYear = 365 → isLeap (year + 1) = true) ∧
    (firstDay ≤ n → n ≤ lastDay → -262400 ≤ year ∧ year ≤ 262399) ∧
    ofDay n = if (5 * inYear + 2) / 153 < 10
      then ⟨year, (5 * inYear + 2) / 153 + 3, inYear - daysBefore ((5 * inYear + 2) / 153) + 1⟩
      else ⟨year + 1, (5 * inYear + 2) / 153 - 9,
        inYear - daysBefore ((5 * inYear + 2) / 153) + 1⟩ := by
  simp only [ofDay]
  -- the day is counted in cycles of 400 years, centuries, fours of years and years; each of the
  -- quotients gets a name, so that the bounds are linear in them
  generalize hz : n - origin = z
  have hn : n = origin + z := by omega
  have hc1 : 0 ≤ z % 146097 := Int.emod_nonneg _ (by decide)
  have hc2 : z % 146097 < 146097 := Int.emod_lt_of_pos _ (by decide)
  have hzc := Int.mul_ediv_add_emod z 146097
  generalize z / 146097 = cycle at *
  generalize z % 146097 = inCycle at *
  generalize hcen : min (inCycle / 36524) 3 = century
  generalize hine : inCycle - century * 36524 = inCentury
  generalize hfour : inCentury / 1461 = four
  generalize hinf : inCentury % 1461 = inFour
  generalize hone : min (inFour / 365) 3 = one
  have h1 : 0 ≤ century ∧ century ≤ 3 ∧ 0 ≤ inCentury ∧ inCentury ≤ 36524 := by omega
  have hcentury : inCentury = 36524 → century = 3 := by omega
  have h2 : 0 ≤ four ∧ four ≤ 24 ∧ 0 ≤ inFour ∧ inFour ≤ 1460 ∧
      inCentury = 1461 * four + inFour := by omega
  have h3 : 0 ≤ one ∧ one ≤ 3 ∧ 0 ≤ inFour - one * 365 ∧ inFour - one * 365 ≤ 365 := by omega
  have hone : inFour - one * 365 = 365 → one = 3 ∧ inFour = 1460 := by omega
  obtain ⟨inYear, hday⟩ : ∃ inYear : Nat, inFour - one * 365 = inYear :=
    ⟨_, (Int.toNat_of_nonneg h3.2.2.1).symm⟩
  have hyear : -262400 ≤ cycle * 400 → cycle * 400 ≤ 262000 →
      -262400 ≤ cycle * 400 + century * 100 + four * 4 + one ∧
        cycle * 400 + century * 100 + four * 4 + one ≤ 262399 := by omega
  refine ⟨cycle * 400 + century * 100 + four * 4 + one, inYear, by omega, ?_, ?_, ?_⟩
  · intro hlast
    obtain ⟨rfl, rfl⟩ := hone (by omega)
    -- a full century ends in a leap day only if its number is a multiple of four
    have hfull : four = 24 → century = 3 := by omega
    simp only [isLeap, Bool.and_eq_true, Bool.or_eq_true, decide_eq_true_eq]
    refine ⟨by omega, ?_⟩
    by_cases hf : four = 24
    · have := hfull hf
      exact .inr (by omega)
    · exact .inl (by omega)
  · intro hlow hhigh
    have horigin : origin = -719468 := rfl
    have hfirst : firstDay = -96465292 := rfl
    have hlast : lastDay = 95026236 := rfl
    exact hyear (by omega) (by omega)
  · rw [hday, Int.toNat_natCast]

/-- The months from March to December end where the next one begins. -/
theorem daysIn_of_lt {m : Nat} (hm : m < 10) (year : Int) :
    daysIn year (m + 3) = daysBefore (m + 1) - daysBefore m := by
  have hmonths : m = 0 ∨ m = 1 ∨ m = 2 ∨ m = 3 ∨ m = 4 ∨ m = 5 ∨ m = 6 ∨ m = 7 ∨ m = 8 ∨ m = 9 := by
    omega
  rcases hmonths with rfl | rfl | rfl | rfl | rfl | rfl | rfl | rfl | rfl | rfl <;> rfl

theorem isValid_iff {d : Date} : d.isValid = true ↔
    1 ≤ d.month ∧ d.month ≤ 12 ∧ 1 ≤ d.day ∧ d.day ≤ daysIn d.year d.month := by
  simp [isValid, and_assoc]

theorem daysIn_le (year : Int) (month : Nat) : daysIn year month ≤ 31 := by
  unfold daysIn
  split
  · split <;> omega
  · split <;> omega

/-- **Every day has a date of the calendar.** -/
theorem isValid_ofDay (n : Int) : (ofDay n).isValid = true := by
  obtain ⟨year, inYear, hle, hleap, -, hof⟩ := ofDay_cases n
  rw [hof, isValid_iff]
  generalize hm : (5 * inYear + 2) / 153 = m
  have hday : daysBefore m ≤ inYear ∧ inYear < daysBefore (m + 1) := by
    unfold daysBefore
    omega
  split
  · next hlt =>
    have hdays := daysIn_of_lt hlt year
    dsimp only
    omega
  · next hge =>
    dsimp only
    -- only February depends on the year
    have hlast : m = 10 ∨ m = 11 := by omega
    rcases hlast with rfl | rfl
    · have hjanuary : daysIn (year + 1) (10 - 9) = 31 := rfl
      have hbefore : daysBefore 10 = 306 ∧ daysBefore (10 + 1) = 337 := ⟨rfl, rfl⟩
      omega
    · have hbefore : daysBefore 11 = 337 := rfl
      cases hl : isLeap (year + 1) with
      | true =>
        have hfebruary : daysIn (year + 1) (11 - 9) = 29 := by
          rw [daysIn, if_pos rfl, hl, if_pos rfl]
        omega
      | false =>
        have hfebruary : daysIn (year + 1) (11 - 9) = 28 := by
          rw [daysIn, if_pos rfl, hl, if_neg Bool.false_ne_true]
        have hne : inYear ≠ 365 := by
          intro h
          rw [hleap h] at hl
          cases hl
        omega

/-- The years of instants. -/
theorem year_ofDay {n : Int} (hlow : firstDay ≤ n) (hhigh : n ≤ lastDay) :
    -262400 ≤ (ofDay n).year ∧ (ofDay n).year ≤ 262400 := by
  obtain ⟨year, inYear, -, -, hbounds, hof⟩ := ofDay_cases n
  have hyear := hbounds hlow hhigh
  rw [hof]
  split
  · dsimp only
    omega
  · dsimp only
    omega

end OutboxProvisioning.Date
