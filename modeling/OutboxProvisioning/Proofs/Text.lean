import OutboxProvisioning.Text.Lowercase
import OutboxProvisioning.Text.Natural

/-!
# Numbers in texts

The text of a number is its digits, which stand for it and have no other form in small letters.

* `digits?_toString`, `natural?_toString`: what is written for a number is read as it.
* `lowercase_toString`: it has no capitals.
-/

namespace OutboxProvisioning.Text

variable {c : Char} {cs : List Char}

theorem toList_toString (n : Nat) : (toString n).toList = Nat.toDigits 10 n := Nat.toList_repr

theorem isDigit_toString (n : Nat) : ∀ c ∈ (toString n).toList, c.isDigit = true := by
  intro c hc
  rw [toList_toString] at hc
  exact Nat.isDigit_of_mem_toDigits (by decide) (by decide) hc

theorem toString_ne_nil (n : Nat) : (toString n).toList ≠ [] := by
  rw [toList_toString]
  exact Nat.toDigits_ne_nil

/-- The value of digits, read from the first on. -/
theorem foldl_digits (cs : List Char) :
    cs.foldl (fun n c => n * 10 + (c.toNat - 48)) 0 = Nat.ofDigitChars 10 cs 0 := by
  rw [Nat.ofDigitChars_eq_foldl]
  congr 1
  funext n c
  rw [Nat.mul_comm]
  rfl

/-- What is written for a number is digits of its value. -/
theorem digits?_toString (n : Nat) : digits? (toString n).toList = some n := by
  have hempty : (toString n).toList.isEmpty = false :=
    List.isEmpty_eq_false_iff.mpr (toString_ne_nil n)
  have hall : (toString n).toList.all Char.isDigit = true :=
    List.all_eq_true.mpr (isDigit_toString n)
  rw [digits?, hempty, hall, foldl_digits, toList_toString, Nat.ofDigitChars_ten_toDigits]
  rfl

/-- **What is written for a number is read as it**, if it is below the bound. -/
theorem natural?_toString (bound n : Nat) :
    natural? bound (toString n).toList = if n < bound then some n else none := by
  have hbody : natural? bound (toString n).toList =
      (digits? (toString n).toList).filter (· < bound) := by
    have hd := isDigit_toString n
    unfold natural?
    split
    · next r hr =>
      rw [hr] at hd
      exact absurd (hd '+' List.mem_cons_self) (by decide)
    · rfl
  rw [hbody, digits?_toString, Option.filter_some]
  simp only [decide_eq_true_eq]

/-- A digit has no other form. -/
theorem lowerChar_digit (h : c.isDigit = true) : lowerChar c = [c] := by
  have hdigits : ∀ k < 10, lowerChar (Char.ofNat (48 + k)) = [Char.ofNat (48 + k)] := by
    decide +kernel
  have hrange : 48 ≤ c.toNat ∧ c.toNat ≤ 57 := by
    simpa [Char.isDigit, UInt32.le_iff_toNat_le] using h
  have hc := hdigits (c.toNat - 48) (by omega)
  rwa [Nat.add_sub_cancel' hrange.1, Char.ofNat_toNat] at hc

theorem lowerAfter_digits (before : List Char) (h : ∀ c ∈ cs, c.isDigit = true) :
    lowerAfter before cs = cs := by
  induction cs generalizing before with
  | nil => rfl
  | cons c cs ih =>
    obtain ⟨hc, hcs⟩ := List.forall_mem_cons.mp h
    have hsigma : decide (c = 'Σ') = false := by
      rw [decide_eq_false_iff_not]
      rintro rfl
      exact absurd hc (by decide)
    rw [lowerAfter, ih _ hcs, hsigma, lowerChar_digit hc]
    rfl

/-- The text of a number has no capitals. -/
theorem lowercase_toString (n : Nat) : lowercase (toString n) = toString n := by
  rw [lowercase, lowerAfter_digits [] (isDigit_toString n), String.ofList_toList]

end OutboxProvisioning.Text
