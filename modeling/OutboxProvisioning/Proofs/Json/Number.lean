import OutboxProvisioning.Proofs.Json.Text

/-!
# Numbers, scanned

A number is scanned to its end if nothing follows that could belong to it, and nothing else is
scanned as one.

* `scanSigned_number`, `number_of_scanSigned`: numbers of any form.
* `scanSigned_whole`: whole numbers without a sign, and their digits.
-/

namespace OutboxProvisioning.Json

variable {b : UInt8} {n : Numeral} {cause : Cause} {negative : Bool}
  {ds s r rest w f e m v : Bytes}

/-- What follows does not begin with a digit. -/
def NoDigit (r : Bytes) : Prop := ∀ b s, r = b :: s → isDigit b = false

/-- What follows cannot belong to a number. -/
def Ends (r : Bytes) : Prop :=
  ∀ b s, r = b :: s → isDigit b = false ∧ b ≠ point ∧ isExponentMark b = false

theorem Ends.noDigit (h : Ends r) : NoDigit r := fun b s hb => (h b s hb).1

theorem Ends.nil : Ends [] := by
  intro b s h
  cases h

theorem Ends.cons (h : isDigit b = false ∧ b ≠ point ∧ isExponentMark b = false) (r : Bytes) :
    Ends (b :: r) := by
  intro b' s hb
  cases hb
  exact h

theorem isSpace_iff : isSpace b = true ↔ b = 0x20 ∨ b = 0x0A ∨ b = 0x09 ∨ b = 0x0D := by
  simp [isSpace, or_assoc]

/-- White space ends a number, and so does what ends it without. -/
theorem Ends.blank (hw : Blank w) (hr : Ends r) : Ends (w ++ r) := by
  cases w with
  | nil => exact hr
  | cons b w =>
    refine Ends.cons ?_ _
    rcases isSpace_iff.mp (hw b List.mem_cons_self) with rfl | rfl | rfl | rfl <;> decide

theorem Blank.ends (h : Blank w) : Ends w := by
  have := Ends.blank h Ends.nil
  rwa [List.append_nil] at this

theorem Ends.comma (r : Bytes) : Ends (comma :: r) := Ends.cons (by decide) r

theorem Ends.closeList (r : Bytes) : Ends (closeList :: r) := Ends.cons (by decide) r

theorem Ends.closeObject (r : Bytes) : Ends (closeObject :: r) := Ends.cons (by decide) r

/-! ## The parts of a number -/

theorem scanDigits_append (h : ∀ d ∈ ds, isDigit d = true) (hr : NoDigit r) :
    scanDigits (ds ++ r) = (ds, r) := by
  have htake : r.takeWhile isDigit = [] := by
    cases r with
    | nil => rfl
    | cons b s => rw [List.takeWhile_cons, hr b s rfl]; rfl
  have hdrop : r.dropWhile isDigit = r := by
    cases r with
    | nil => rfl
    | cons b s => rw [List.dropWhile_cons, hr b s rfl]; rfl
  rw [scanDigits, List.takeWhile_append_of_pos h, List.dropWhile_append_of_pos h, htake, hdrop,
    List.append_nil]

/-- The digits that are scanned are digits, and no digit is left. -/
theorem scanDigits_eq (s : Bytes) : s = (scanDigits s).1 ++ (scanDigits s).2 ∧
    ∀ d ∈ (scanDigits s).1, isDigit d = true :=
  ⟨List.takeWhile_append_dropWhile.symm, fun d hd => List.all_eq_true.mp List.all_takeWhile d hd⟩

theorem scanWhole_whole (h : IsWhole w) (hr : NoDigit r) :
    scanWhole cause (w ++ r) = .ok (w, r) := by
  cases h with
  | zero =>
    have hhead : (r.head?.map isDigit).getD false = false := by
      cases r with
      | nil => rfl
      | cons b s => simp [hr b s rfl]
    simp [scanWhole, hhead, show isDigit 0x30 = true by decide]
  | digits hd h0 hds => simp [scanWhole, hd, h0, scanDigits_append hds hr]

theorem whole_of_scan (h : scanWhole cause s = .ok (w, r)) : IsWhole w ∧ s = w ++ r := by
  unfold scanWhole at h
  split at h
  · cases h
  · next b s =>
    split at h
    · cases h
    · next hd =>
      split at h
      · next h0 =>
        split at h
        · cases h
        · cases h
          exact ⟨by rw [h0]; exact .zero, rfl⟩
      · next h0 =>
        cases h
        obtain ⟨hs, hds⟩ := scanDigits_eq s
        exact ⟨.digits (by simpa using hd) h0 hds, by rw [List.cons_append, ← hs]⟩

/-- What follows begins with no point. -/
def NoPoint (r : Bytes) : Prop := ∀ b s, r = b :: s → b ≠ point

theorem Ends.noPoint (h : Ends r) : NoPoint r := fun b s hb => (h b s hb).2.1

/-- A fraction is scanned as its digits. -/
theorem scanFraction_fraction (h : IsFraction f) (hd : NoDigit r) (hp : NoPoint r) :
    scanFraction cause (f ++ r) = .ok (f.tail, r) := by
  cases h with
  | none =>
    cases r with
    | nil => rfl
    | cons b s =>
      rw [List.nil_append, scanFraction, if_neg (hp b s rfl)]
      rfl
  | @digits ds hds =>
    obtain ⟨d, ds, rfl⟩ := List.exists_cons_of_ne_nil hds.1
    rw [List.cons_append, scanFraction, if_pos rfl, scanDigits_append hds.2 hd]
    rfl

theorem fraction_of_scan (h : scanFraction cause s = .ok (ds, r)) :
    ∃ f, IsFraction f ∧ s = f ++ r := by
  unfold scanFraction at h
  split at h
  · cases h
    exact ⟨[], .none, rfl⟩
  · next b s =>
    obtain ⟨hs, hds⟩ := scanDigits_eq s
    split at h
    · next hb =>
      subst hb
      split at h
      · cases h
      · cases h
      · next hne =>
        simp only [Except.ok.injEq] at h
        rw [h] at hs hds
        have hne : ds ≠ [] := by
          rintro rfl
          exact hne r h
        exact ⟨point :: ds, .digits ⟨hne, hds⟩, by rw [List.cons_append, ← hs]⟩
    · cases h
      exact ⟨[], .none, rfl⟩

/-- Neither digits nor points are exponent marks. -/
theorem not_digit_of_mark (h : isExponentMark b = true) : isDigit b = false ∧ b ≠ point := by
  simp only [isExponentMark, Bool.or_eq_true, beq_iff_eq] at h
  rcases h with rfl | rfl <;> decide

theorem scanExponent_none (hr : Ends r) : scanExponent cause r = .ok (none, r) := by
  cases r with
  | nil => rfl
  | cons b s => rw [scanExponent, (hr b s rfl).2.2, if_neg Bool.false_ne_true]

theorem scanSign_sign {sign : Bytes} (hs : sign = [] ∨ sign = [plus] ∨ sign = [minus])
    (hd : isDigit b = true) : ∃ negative, scanSign (sign ++ b :: r) = (negative, b :: r) := by
  rcases hs with rfl | rfl | rfl
  · have hm : b ≠ minus := by
      rintro rfl
      cases hd
    have hp : b ≠ plus := by
      rintro rfl
      cases hd
    exact ⟨false, by rw [List.nil_append, scanSign, if_neg hm, if_neg hp]⟩
  · exact ⟨false, rfl⟩
  · exact ⟨true, rfl⟩

theorem scanExponent_exponent (cause : Cause) (h : IsExponent e) (hr : Ends r) :
    ∃ x, scanExponent cause (e ++ r) = .ok (x, r) := by
  cases h with
  | none => exact ⟨_, scanExponent_none hr⟩
  | digits hmark hsign hds =>
    -- the first digit tells that the sign has ended
    obtain ⟨d, ds, rfl⟩ := List.exists_cons_of_ne_nil hds.1
    have hd := hds.2 d List.mem_cons_self
    have hrest : ∀ d ∈ ds, isDigit d = true := fun b hb => hds.2 b (List.mem_cons_of_mem _ hb)
    obtain ⟨negative, hs⟩ := scanSign_sign (r := ds ++ r) hsign hd
    simp only [List.cons_append, List.append_assoc, scanExponent, hmark, if_true, hs, hd,
      scanDigits_append hrest hr.noDigit]
    exact ⟨_, rfl⟩

theorem sign_of_scan (s : Bytes) : ∃ sign, (sign = [] ∨ sign = [plus] ∨ sign = [minus]) ∧
    s = sign ++ (scanSign s).2 := by
  unfold scanSign
  split
  · exact ⟨[], .inl rfl, rfl⟩
  · split
    · next hb => exact ⟨[minus], .inr (.inr rfl), by rw [hb]; rfl⟩
    · split
      · next hb => exact ⟨[plus], .inr (.inl rfl), by rw [hb]; rfl⟩
      · exact ⟨[], .inl rfl, rfl⟩

theorem exponent_of_scan {x : Option (Bool × Bytes)} (h : scanExponent cause s = .ok (x, r)) :
    ∃ e, IsExponent e ∧ s = e ++ r := by
  unfold scanExponent at h
  split at h
  · cases h
    exact ⟨[], .none, rfl⟩
  · next b s =>
    obtain ⟨sign, hsign, hs⟩ := sign_of_scan s
    split at h
    · next hb =>
      split at h
      · cases h
      · next negative d rest hscan =>
        rw [hscan] at hs
        split at h
        · next hd =>
          cases h
          obtain ⟨hrest, hds⟩ := scanDigits_eq rest
          have hall : Digits (d :: (scanDigits rest).1) := by
            refine ⟨List.cons_ne_nil _ _, fun b hb => ?_⟩
            rcases List.mem_cons.mp hb with rfl | hb
            · exact hd
            · exact hds b hb
          refine ⟨b :: (sign ++ d :: (scanDigits rest).1), .digits hb hsign hall, ?_⟩
          rw [List.cons_append, List.append_assoc, List.cons_append, ← hrest, ← hs]
        · cases h
    · cases h
      exact ⟨[], .none, rfl⟩

/-! ## Whole numbers, fractions and exponents together -/

theorem IsExponent.noDigit (h : IsExponent e) (hr : Ends r) : NoDigit (e ++ r) := by
  cases h with
  | none => exact hr.noDigit
  | digits hmark _ _ =>
    intro b s hb
    cases hb
    exact (not_digit_of_mark hmark).1

theorem IsExponent.noPoint (h : IsExponent e) (hr : Ends r) : NoPoint (e ++ r) := by
  cases h with
  | none => exact hr.noPoint
  | digits hmark _ _ =>
    intro b s hb
    cases hb
    exact (not_digit_of_mark hmark).2

theorem IsFraction.noDigit (h : IsFraction f) (hr : NoDigit r) : NoDigit (f ++ r) := by
  cases h with
  | none => exact hr
  | digits _ =>
    intro b s hb
    cases hb
    decide

theorem scanNumeral_magnitude (cause : Cause) (negative : Bool) (h : IsMagnitude m)
    (hr : Ends r) : ∃ n, scanNumeral cause negative (m ++ r) = .ok (n, r) := by
  cases h with
  | @parts w f e hw hf he =>
    obtain ⟨x, hx⟩ := scanExponent_exponent cause he hr
    -- each part ends where the next begins, so what follows is looked at from the end on
    have hed := he.noDigit hr
    rw [List.append_assoc, List.append_assoc, scanNumeral, scanWhole_whole hw (hf.noDigit hed)]
    simp only [scanFraction_fraction hf hed (he.noPoint hr), hx]
    exact ⟨_, rfl⟩

theorem magnitude_of_scan (h : scanNumeral cause negative s = .ok (n, r)) :
    ∃ m, IsMagnitude m ∧ s = m ++ r := by
  unfold scanNumeral at h
  split at h
  · cases h
  · next hw =>
    split at h
    · cases h
    · next hf =>
      split at h
      · cases h
      · next he =>
        cases h
        obtain ⟨hwhole, rfl⟩ := whole_of_scan hw
        obtain ⟨f, hfraction, rfl⟩ := fraction_of_scan hf
        obtain ⟨e, hexponent, rfl⟩ := exponent_of_scan he
        exact ⟨_, .parts hwhole hfraction hexponent, by rw [List.append_assoc, List.append_assoc]⟩

/-- A number begins with a digit, unless with a minus sign. -/
theorem IsWhole.head (h : IsWhole w) : ∃ d ds, w = d :: ds ∧ isDigit d = true := by
  cases h with
  | zero => exact ⟨0x30, [], rfl, by decide⟩
  | digits hd _ _ => exact ⟨_, _, rfl, hd⟩

theorem IsMagnitude.head (h : IsMagnitude m) : ∃ d ds, m = d :: ds ∧ isDigit d = true := by
  cases h with
  | parts hw _ _ =>
    obtain ⟨d, ds, rfl, hd⟩ := hw.head
    exact ⟨d, _, rfl, hd⟩

theorem IsNumber.head (h : IsNumber v) :
    ∃ b s, v = b :: s ∧ (decide (b = minus) || isDigit b) = true := by
  cases h with
  | plain hm =>
    obtain ⟨d, ds, rfl, hd⟩ := hm.head
    exact ⟨d, ds, rfl, by rw [hd, Bool.or_true]⟩
  | negative _ => exact ⟨minus, _, rfl, rfl⟩

theorem ne_minus_of_digit (h : isDigit b = true) : b ≠ minus := by
  rintro rfl
  cases h

/-- **A number is scanned to its end.** -/
theorem scanSigned_number (cause : Cause) (h : IsNumber v) (hr : Ends r) :
    ∃ n, scanSigned cause (v ++ r) = .ok (n, r) := by
  cases h with
  | plain hm =>
    obtain ⟨n, hn⟩ := scanNumeral_magnitude cause false hm hr
    obtain ⟨d, ds, rfl, hd⟩ := hm.head
    rw [List.cons_append] at hn ⊢
    exact ⟨n, by rw [scanSigned, if_neg (ne_minus_of_digit hd), hn]⟩
  | negative hm =>
    obtain ⟨n, hn⟩ := scanNumeral_magnitude cause true hm hr
    exact ⟨n, by rw [List.cons_append, scanSigned, if_pos rfl, hn]⟩

/-- **What is scanned as a number is one.** -/
theorem number_of_scanSigned (h : scanSigned cause s = .ok (n, r)) :
    ∃ v, IsNumber v ∧ s = v ++ r := by
  unfold scanSigned at h
  split at h
  · cases h
  · split at h
    · next hb =>
      obtain ⟨m, hm, rfl⟩ := magnitude_of_scan h
      exact ⟨_, .negative hm, by rw [hb]; rfl⟩
    · obtain ⟨m, hm, hs⟩ := magnitude_of_scan h
      exact ⟨m, .plain hm, hs⟩

/-- **A whole number without a sign is scanned as its digits.** -/
theorem scanSigned_whole (cause : Cause) (h : IsWhole w) (hr : Ends r) :
    scanSigned cause (w ++ r) = .ok (⟨false, w, [], none⟩, r) := by
  have hn : scanNumeral cause false (w ++ r) = .ok (⟨false, w, [], none⟩, r) := by
    have hf : scanFraction cause r = .ok ([], r) :=
      scanFraction_fraction .none hr.noDigit hr.noPoint
    rw [scanNumeral, scanWhole_whole h hr.noDigit]
    simp only [hf, scanExponent_none hr]
  obtain ⟨d, ds, rfl, hd⟩ := h.head
  rw [List.cons_append] at hn ⊢
  rw [scanSigned, if_neg (ne_minus_of_digit hd), hn]

end OutboxProvisioning.Json
