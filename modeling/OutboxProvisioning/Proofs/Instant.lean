import Mathlib.Algebra.Group.Nat.Defs
import OutboxProvisioning.Instant.Printer
import OutboxProvisioning.Instant.Reader
import OutboxProvisioning.Proofs.Calendar
import OutboxProvisioning.Proofs.Text

/-!
# Instants, written and read

What is written for an instant is read as that instant, with a fraction of any width, in any year,
and also in a leap second that ends a minute. One amid a minute is written like the second that
follows it, and read as that.

* `number_padded`, `part_padded`, `year_chars`, `fraction_chars`: the parts.
* `parts_chars`: the parts of a whole text.
* `spelled`: the instant that the text of an instant spells.
* `ofString_toString`: **what is written for an instant is read as the instant it spells.**
* `spelled_eq_iff`: the instants that are read back.
-/

namespace OutboxProvisioning.Instant

variable {n width low high : Nat} {ds r : List Char} {y : Int} {t : Instant}

/-! ## Padded numbers -/

/-- Zeros before a number leave its value. -/
theorem digitsValue_padded (width n : Nat) : digitsValue (padded width n) = n := by
  rw [digitsValue, Text.foldl_digits, padded, Nat.ofDigitChars_append,
    Nat.ofDigitChars_replicate_zero, Nat.mul_zero, Text.toList_toString,
    Nat.ofDigitChars_ten_toDigits]

theorem isDigit_padded {c : Char} (h : c ∈ padded width n) : c.isDigit = true := by
  rw [padded] at h
  rcases List.mem_append.mp h with h | h
  · rw [List.eq_of_mem_replicate h]
    rfl
  · exact Text.isDigit_toString n c h

theorem padded_ne_nil (width n : Nat) : padded width n ≠ [] := by
  rw [padded]
  exact List.append_ne_nil_of_right_ne_nil _ (Text.toString_ne_nil n)

/-- A number that fits the width takes it. -/
theorem length_padded (hw : 0 < width) (h : n < 10 ^ width) : (padded width n).length = width := by
  have hle := (Nat.length_toDigits_le_iff (by decide : 1 < 10) hw).mpr h
  rw [padded, Text.toList_toString, List.length_append, List.length_replicate]
  omega

/-- What follows does not begin with a digit. -/
def NoDigit (r : List Char) : Prop := ∀ c s, r = c :: s → c.isDigit = false

theorem NoDigit.cons {c : Char} (h : c.isDigit = false) (r : List Char) : NoDigit (c :: r) := by
  intro c' s hc
  cases hc
  exact h

theorem takeWhile_digits (hd : ∀ c ∈ ds, c.isDigit = true) (hr : NoDigit r) :
    (ds ++ r).takeWhile Char.isDigit = ds := by
  rw [List.takeWhile_append_of_pos hd]
  cases r with
  | nil => rw [List.takeWhile_nil, List.append_nil]
  | cons c s => rw [List.takeWhile_cons, hr c s rfl, if_neg Bool.false_ne_true, List.append_nil]

/-- A number is read to its end, which is where its width or its digits end. -/
theorem number_digits (hne : ds ≠ []) (hd : ∀ c ∈ ds, c.isDigit = true)
    (hwidth : ds.length = width ∨ ds.length ≤ width ∧ NoDigit r) (hl : digitsValue ds ≤ largest) :
    number width (ds ++ r) = .ok (digitsValue ds, r) := by
  have htake : ((ds ++ r).take width).takeWhile Char.isDigit = ds := by
    -- it is cut off by the width, or by what follows
    rcases hwidth with rfl | ⟨hle, hr⟩
    · have := takeWhile_digits hd (r := []) (fun c s h => by cases h)
      rw [List.append_nil] at this
      rw [List.take_left', this]
      rfl
    · rw [List.take_append, List.take_of_length_le hle]
      refine takeWhile_digits hd fun c s hc => ?_
      cases r with
      | nil => simp at hc
      | cons c' s' =>
        cases hk : width - ds.length with
        | zero =>
          rw [hk] at hc
          cases hc
        | succ k =>
          rw [hk] at hc
          cases hc
          exact hr _ _ rfl
  obtain ⟨c, ds', rfl⟩ := List.exists_cons_of_ne_nil hne
  have hc := hd c List.mem_cons_self
  rw [List.cons_append] at htake ⊢
  simp only [number, hc, Bool.not_true, Bool.false_eq_true, if_false, htake,
    if_neg (Nat.not_lt.mpr hl)]
  rw [← List.cons_append, List.drop_left' rfl]

theorem number_padded {k : Nat} (hwidth : (padded k n).length = width ∨
    (padded k n).length ≤ width ∧ NoDigit r) (hl : n ≤ largest) :
    number width (padded k n ++ r) = .ok (n, r) := by
  have := number_digits (padded_ne_nil k n) (fun c hc => isDigit_padded hc) hwidth
    (by rw [digitsValue_padded]; exact hl)
  rwa [digitsValue_padded] at this

/-! ## Parts -/

theorem isBlank_digit {c : Char} (h : c.isDigit = true) : Text.isBlank c = false := by
  have hrange : 48 ≤ c.toNat ∧ c.toNat ≤ 57 := by
    simpa [Char.isDigit, UInt32.le_iff_toNat_le] using h
  simp only [Text.isBlank]
  generalize c.toNat = n at hrange
  simp
  omega

theorem skipBlanks_cons {c : Char} (h : Text.isBlank c = false) (r : List Char) :
    skipBlanks (c :: r) = c :: r := by
  rw [skipBlanks, List.dropWhile_cons, h, if_neg Bool.false_ne_true]

theorem skipBlanks_padded (width n : Nat) (r : List Char) :
    skipBlanks (padded width n ++ r) = padded width n ++ r := by
  obtain ⟨c, ds, hds⟩ := List.exists_cons_of_ne_nil (padded_ne_nil width n)
  have hc : c.isDigit = true := isDigit_padded (hds ▸ List.mem_cons_self)
  rw [hds, List.cons_append, skipBlanks_cons (isBlank_digit hc)]

/-- A part of two digits. -/
theorem part_padded (h : n < 100) (hlow : low ≤ n) (hhigh : n ≤ high) (r : List Char) :
    part low high (padded 2 n ++ r) = .ok (n, r) := by
  have hlength : (padded 2 n).length = 2 := length_padded (by decide) h
  have hlargest : n ≤ largest := Nat.le_trans (Nat.le_of_lt h) (by decide)
  rw [part, skipBlanks_padded, number_padded (.inl hlength) hlargest]
  simp [hlow, hhigh]

theorem mark_cons {c : Char} (h : Text.isBlank c = false) (r : List Char) :
    mark c (c :: r) = .ok r := by
  rw [mark, skipBlanks_cons h]
  exact if_pos rfl

/-- Years are read as they are written, with a sign or without. -/
theorem year_chars (hlow : -262400 ≤ y) (hhigh : y ≤ 262400) (hr : NoDigit r) :
    year (yearChars y ++ r) = .ok (y, r) := by
  have hpow : (Nat.pow 2 31 : Int) = 2147483648 := by decide
  have hlargest : largest = 9223372036854775807 := by decide
  have hlimits : (-(Nat.pow 2 31 : Int) ≤ y && y < (Nat.pow 2 31 : Int)) = true := by
    rw [hpow, Bool.and_eq_true, decide_eq_true_eq, decide_eq_true_eq]
    omega
  rw [yearChars]
  split
  · next hplain =>
    -- four digits without a sign
    rw [Bool.and_eq_true, decide_eq_true_eq, decide_eq_true_eq] at hplain
    have hlength : (padded 4 y.toNat).length = 4 := length_padded (by decide) (by omega)
    have hnumber := number_padded (r := r) (.inl hlength) (by omega)
    obtain ⟨c, ds, hds⟩ := List.exists_cons_of_ne_nil (padded_ne_nil 4 y.toNat)
    have hc : c.isDigit = true := isDigit_padded (hds ▸ List.mem_cons_self)
    have hminus : c ≠ '-' := by
      rintro rfl
      cases hc
    have hplus : c ≠ '+' := by
      rintro rfl
      cases hc
    rw [hds, List.cons_append] at hnumber ⊢
    simp only [year, skipBlanks_cons (isBlank_digit hc), if_neg hminus, if_neg hplus, hnumber,
      Except.bind, Int.toNat_of_nonneg hplain.1, if_pos hlimits]
  · -- behind a sign as many digits as there are
    have hnumber : number (padded 4 y.natAbs ++ r).length (padded 4 y.natAbs ++ r) =
        .ok (y.natAbs, r) := by
      refine number_padded (.inr ⟨?_, hr⟩) (by omega)
      rw [List.length_append]
      omega
    rw [List.cons_append]
    by_cases hneg : y < 0
    · have habs : -(y.natAbs : Int) = y := by omega
      have hblank : Text.isBlank '-' = false := by decide
      simp only [if_pos hneg, year, skipBlanks_cons hblank, if_true, hnumber, Except.bind, habs,
        if_pos hlimits]
    · have habs : (y.natAbs : Int) = y := by omega
      have hblank : Text.isBlank '+' = false := by decide
      have hminus : '+' ≠ '-' := by decide
      simp only [if_neg hneg, year, skipBlanks_cons hblank, if_neg hminus, if_true, hnumber,
        Except.bind, habs, if_pos hlimits]

/-- A fraction of `width` digits. -/
theorem fraction_padded (hpos : 0 < width) (hwidth : width ≤ 9) (h : n < 10 ^ width) :
    fraction ('.' :: padded width n ++ ['Z']) = .ok (n * 10 ^ (9 - width), ['Z']) := by
  have hlength : (padded width n).length = width := length_padded hpos h
  have hlargest : n ≤ largest :=
    Nat.le_trans (Nat.le_of_lt (Nat.lt_of_lt_of_le h (Nat.pow_le_pow_right (by decide) hwidth)))
      (by decide)
  have hnumber := number_padded (r := ['Z'])
    (.inr ⟨Nat.le_trans (Nat.le_of_eq hlength) hwidth, NoDigit.cons rfl []⟩) hlargest
  have hpow : Nat.pow 10 (9 - width) = 10 ^ (9 - width) := rfl
  rw [List.cons_append, fraction, if_pos rfl, hnumber]
  dsimp only
  rw [List.length_append, hlength, Nat.add_sub_cancel, hpow]
  rfl

theorem fraction_chars (h : n < nanosPerSecond) :
    fraction (fractionChars n ++ ['Z']) = .ok (n, ['Z']) := by
  have hsecond : nanosPerSecond = 1000000000 := rfl
  rw [fractionChars]
  split
  · next hzero =>
    rw [hzero]
    rfl
  · split
    · next hmilli =>
      rw [fraction_padded (by decide) (by decide) (by omega)]
      have hback : n / 1000000 * 10 ^ (9 - 3) = n := by omega
      rw [hback]
    · split
      · next hmicro =>
        rw [fraction_padded (by decide) (by decide) (by omega)]
        have hback : n / 1000 * 10 ^ (9 - 6) = n := by omega
        rw [hback]
      · rw [fraction_padded (by decide) (by decide) (by omega)]
        have hback : n * 10 ^ (9 - 9) = n := by omega
        rw [hback]

/-! ## Whole texts -/

/-- The parts of a text are what was written in it. -/
theorem parts_chars {month day hour minute second nano : Nat}
    (hyear : -262400 ≤ y ∧ y ≤ 262400) (hmonth : 1 ≤ month ∧ month ≤ 12)
    (hday : 1 ≤ day ∧ day ≤ 31) (hhour : hour ≤ 23) (hminute : minute ≤ 59) (hsecond : second ≤ 60)
    (hnano : nano < nanosPerSecond) :
    parts (yearChars y ++ '-' :: padded 2 month ++ '-' :: padded 2 day ++ 'T' :: padded 2 hour ++
      ':' :: padded 2 minute ++ ':' :: padded 2 second ++ fractionChars nano ++ ['Z']) =
        .ok (⟨⟨y, month, day⟩, hour, minute, second, nano, 0⟩, []) := by
  have hdash : Text.isBlank '-' = false := by decide
  have hcolon : Text.isBlank ':' = false := by decide
  have hseparator : ∀ r, separator ('T' :: r) = .ok r := fun _ => rfl
  have hoffset : offset (skipBlanks ['Z']) = .ok (0, []) := rfl
  simp only [List.append_assoc, List.cons_append, parts, bind, Except.bind,
    year_chars hyear.1 hyear.2 (NoDigit.cons (c := '-') rfl _), mark_cons hdash, mark_cons hcolon,
    part_padded (show month < 100 by omega) hmonth.1 hmonth.2,
    part_padded (show day < 100 by omega) hday.1 hday.2,
    part_padded (show hour < 100 by omega) (Nat.zero_le _) hhour,
    part_padded (show minute < 100 by omega) (Nat.zero_le _) hminute,
    part_padded (show second < 100 by omega) (Nat.zero_le _) hsecond,
    hseparator, fraction_chars hnano, hoffset]
  rfl

/-- Parts in UTC stand for the instant at their date and time of day. -/
theorem Parts.instant_utc {p : Parts} (t : Instant) (hdate : p.date = t.date)
    (htime : p.time = (t.second, t.nano)) (hoffset : p.offset = 0) : p.instant = .ok t := by
  have hvalid : p.date.isValid = true := by
    rw [hdate]
    exact Date.isValid_ofDay t.day
  have hday : p.date.toDay = t.day := by
    rw [hdate]
    exact Date.toDay_ofDay t.day
  have hseconds : ofSeconds? (t.day * secondsPerDay + t.second - 0) t.nano = some t := by
    have hlt := t.second_lt
    have hlength : secondsPerDay = 86400 := rfl
    have hquotient : (t.day * secondsPerDay + t.second - 0) / (secondsPerDay : Int) = t.day := by
      rw [hlength]
      omega
    have hrest : ((t.day * secondsPerDay + t.second - 0) % (secondsPerDay : Int)).toNat =
        t.second := by
      rw [hlength]
      omega
    rw [ofSeconds?, hquotient, hrest, make?_self]
  simp only [Parts.instant, htime, hvalid, hday, hoffset, make?_self, hseconds]
  rfl

/-! ## Leap seconds -/

/-- An instant inside a leap second is regular if that second ends a minute. -/
def Regular (t : Instant) : Prop := t.isLeap = true → t.second % 60 = 59

/-- The instant that the text of an instant spells: a leap second amid a minute is written like the
second that follows it. -/
def spelled (t : Instant) : Instant :=
  if h : t.isLeap = true ∧ t.second % 60 ≠ 59 then
    { t with
      second := t.second + 1
      nano := t.nano - nanosPerSecond
      second_lt := by
        have hlt := t.second_lt
        have hlength : secondsPerDay = 86400 := rfl
        omega
      nano_lt := Nat.lt_of_le_of_lt (Nat.sub_le _ _) t.nano_lt }
  else t

theorem Regular.spelled_eq (h : t.Regular) : t.spelled = t :=
  dif_neg fun hamid => hamid.2 (h hamid.1)

/-- **The instants that are read back** are the regular ones. -/
theorem spelled_eq_iff : t.spelled = t ↔ t.Regular := by
  refine ⟨fun h hleap => Decidable.byContradiction fun hamid => ?_, Regular.spelled_eq⟩
  have hsecond : t.spelled.second = t.second + 1 := by rw [spelled, dif_pos ⟨hleap, hamid⟩]
  rw [h] at hsecond
  omega

/-- An instant and the one that it spells are written alike. -/
theorem toString_spelled (t : Instant) : t.spelled.toString = t.toString := by
  by_cases hamid : t.isLeap = true ∧ t.second % 60 ≠ 59
  · have hspelled : t.spelled.date = t.date ∧ t.spelled.second = t.second + 1 ∧
        t.spelled.nano = t.nano - nanosPerSecond := by
      rw [spelled, dif_pos hamid]
      exact ⟨rfl, rfl, rfl⟩
    obtain ⟨hdate, hsecond, hnano⟩ := hspelled
    have hplain : t.spelled.isLeap = false := by
      have hlt := t.nano_lt
      rw [isLeap, decide_eq_false_iff_not, hnano]
      omega
    -- the minute goes on, so that only its second is another one
    have hhour : (t.second + 1) / 3600 = t.second / 3600 := by omega
    have hminute : (t.second + 1) / 60 % 60 = t.second / 60 % 60 := by omega
    have hnext : (t.second + 1) % 60 = t.second % 60 + 1 := by omega
    simp only [Instant.toString, chars, hplain, hamid.1, hdate, hsecond, hnano, hhour, hminute,
      hnext, Bool.false_eq_true, if_false, if_true, Nat.add_zero]
  · rw [spelled, dif_neg hamid]

/-- The time of day that is written is that of the instant spelled. -/
theorem time_written (t : Instant) : Parts.time ⟨t.date, t.second / 3600, t.second / 60 % 60,
    t.second % 60 + (if t.isLeap then 1 else 0),
    if t.isLeap then t.nano - nanosPerSecond else t.nano, 0⟩ =
      (t.spelled.second, t.spelled.nano) := by
  have hlast : t.second % 60 < 60 := Nat.mod_lt _ (by decide)
  rw [Parts.time, Prod.mk.injEq]
  by_cases hleap : t.isLeap = true
  · have hover : nanosPerSecond ≤ t.nano := of_decide_eq_true hleap
    by_cases hends : t.second % 60 = 59
    · -- the last second of a minute and its leap second are one second with more nanoseconds
      rw [Regular.spelled_eq fun _ => hends]
      simp only [hleap, if_true, hends]
      omega
    · rw [spelled, dif_pos ⟨hleap, hends⟩]
      have hne : t.second % 60 + 1 ≠ 60 := by omega
      simp only [hleap, if_true, hne, if_false]
      omega
  · have hne : t.second % 60 + 0 ≠ 60 := by omega
    rw [Regular.spelled_eq fun h => absurd h hleap]
    simp only [hleap, Bool.false_eq_true, if_false, hne]
    omega

/-- **What is written for an instant is read as the instant it spells.** -/
theorem ofString_toString (t : Instant) : ofString t.toString = .ok t.spelled := by
  have hyear : -262400 ≤ t.date.year ∧ t.date.year ≤ 262400 := Date.year_ofDay t.day_ge t.day_le
  have hvalid : t.date.isValid = true := Date.isValid_ofDay t.day
  obtain ⟨hmonth, hmonth', hday, hday'⟩ := Date.isValid_iff.mp hvalid
  have hdays : Date.daysIn t.date.year t.date.month ≤ 31 := Date.daysIn_le _ _
  have hlt := t.second_lt
  have hnano := t.nano_lt
  have hlength : secondsPerDay = 86400 := rfl
  have hsecond : t.second % 60 + (if t.isLeap then 1 else 0) ≤ 60 := by
    split <;> omega
  have hfraction : (if t.isLeap then t.nano - nanosPerSecond else t.nano) < nanosPerSecond := by
    split
    · omega
    · next hleap =>
      rw [isLeap, decide_eq_true_eq] at hleap
      omega
  have hparts := parts_chars hyear ⟨hmonth, hmonth'⟩ ⟨hday, Nat.le_trans hday' hdays⟩
    (show t.second / 3600 ≤ 23 by omega) (show t.second / 60 % 60 ≤ 59 by omega) hsecond hfraction
  have hdate : t.date = t.spelled.date := by
    unfold spelled
    split <;> rfl
  rw [ofString, Instant.toString, String.toList_ofList, ofChars, chars, hparts]
  exact Parts.instant_utc t.spelled hdate t.time_written rfl

end OutboxProvisioning.Instant
