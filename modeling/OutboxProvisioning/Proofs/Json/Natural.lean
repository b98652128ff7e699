import OutboxProvisioning.Json.Printer
import OutboxProvisioning.Proofs.Json.Reader

/-!
# Whole numbers

A whole number without a sign is read as the value of its digits, if it fits; one that does not
fit is refused, and never cut down.

* `decimal`: the value of digits.
* `unsigned_takes`, `unsigned_refuses`: reading, for any number of bits up to 64.
* `whole_octets`, `decimal_octets`: the digits of a number are a whole number of that value.
-/

namespace OutboxProvisioning.Json

variable {bits bound n : Nat} {d : UInt8} {ds r rest s v w : Bytes}

/-! ## Values of digits -/

/-- The number that is `n` with the digits `ds` after it. -/
def decimal (n : Nat) (ds : Bytes) : Nat := ds.foldl (fun n d => n * 10 + (d.toNat - 0x30)) n

theorem decimal_cons (n : Nat) (d : UInt8) (ds : Bytes) :
    decimal n (d :: ds) = decimal (n * 10 + (d.toNat - 0x30)) ds := by
  simp only [decimal, List.foldl_cons]

theorem decimal_append (n : Nat) (ds ds' : Bytes) :
    decimal n (ds ++ ds') = decimal (decimal n ds) ds' := List.foldl_append

theorem le_decimal (n : Nat) (ds : Bytes) : n ≤ decimal n ds := by
  induction ds generalizing n with
  | nil => exact Nat.le_refl n
  | cons d ds ih =>
    rw [decimal_cons]
    have := ih (n * 10 + (d.toNat - 0x30))
    omega

/-- Digits are gathered whole if their value is below the bound. -/
theorem gather_of_lt (h : decimal n ds < bound) : gather bound n ds = (decimal n ds, []) := by
  induction ds generalizing n with
  | nil => rfl
  | cons d ds ih =>
    rw [decimal_cons] at h ⊢
    have hle := le_decimal (n * 10 + (d.toNat - 0x30)) ds
    rw [gather, if_pos (by omega), ih h]

/-- Digits are left over if their value is not below the bound. -/
theorem gather_of_le (hn : n < bound) (h : bound ≤ decimal n ds) : (gather bound n ds).2 ≠ [] := by
  induction ds generalizing n with
  | nil => exact absurd h (Nat.not_le.mpr hn)
  | cons d ds ih =>
    rw [decimal_cons] at h
    rw [gather]
    split
    · next hm => exact ih hm h
    · exact List.cons_ne_nil _ _

/-- A whole number that 64 bits hold keeps its value. -/
theorem value_of_lt (h : decimal 0 ds < Nat.pow 2 64) (rest : Bytes) :
    Numeral.value ⟨false, ds, [], none⟩ rest = .ok (.natural (decimal 0 ds)) := by
  simp [Numeral.value, gather_of_lt h]

/-- One that they do not hold is no whole number any more. -/
theorem value_of_le (h : Nat.pow 2 64 ≤ decimal 0 ds) (rest : Bytes) :
    (∃ fault, Numeral.value ⟨false, ds, [], none⟩ rest = .error fault) ∨
      ∃ x, Numeral.value ⟨false, ds, [], none⟩ rest = .ok (.float x) := by
  have hleft := gather_of_le (by decide) h
  simp only [Numeral.value, List.isEmpty_eq_false_iff.mpr hleft, Bool.false_and,
    Bool.false_eq_true, if_false]
  split
  · exact .inr ⟨_, rfl⟩
  · exact .inl ⟨_, rfl⟩

/-! ## Reading -/

theorem unsigned_run (bits : Nat) (s : Bytes) :
    (Reader.unsigned bits).run s = scanUnsigned bits s := rfl

theorem digit_space (h : isDigit d = true) : isSpace d = false := by
  rw [Bool.eq_false_iff]
  intro hspace
  rw [isDigit_iff] at h
  rcases isSpace_iff.mp hspace with rfl | rfl | rfl | rfl <;> revert h <;> decide

/-- **A number that fits is read as its value.** -/
theorem unsigned_takes (hv : IsWhole v) (hbits : bits ≤ 64) (h : decimal 0 v < Nat.pow 2 bits) :
    (Reader.unsigned bits).Takes v (decimal 0 v) := by
  intro w r hw hr
  have hfits : decimal 0 v < Nat.pow 2 64 :=
    Nat.lt_of_lt_of_le h (Nat.pow_le_pow_right (by decide) hbits)
  have hscan := scanSigned_whole .endBeforeValue hv hr
  have hvalue := value_of_lt hfits r
  obtain ⟨d, ds, rfl, hd⟩ := hv.head
  rw [unsigned_run, scanUnsigned, skipSpace_padded hw (digit_space hd)]
  rw [List.cons_append] at hscan
  simp only [hd, Bool.or_true, if_true, hscan, hvalue, h]

/-- **A number that does not fit is refused.** -/
theorem unsigned_refuses (hv : IsWhole v) (h : Nat.pow 2 bits ≤ decimal 0 v) :
    (Reader.unsigned bits).Refuses v := by
  intro w r hw hr
  have hscan := scanSigned_whole .endBeforeValue hv hr
  obtain ⟨d, ds, rfl, hd⟩ := hv.head
  rw [unsigned_run, scanUnsigned, skipSpace_padded hw (digit_space hd)]
  rw [List.cons_append] at hscan
  simp only [hd, Bool.or_true, if_true, hscan]
  rcases Nat.lt_or_ge (decimal 0 (d :: ds)) (Nat.pow 2 64) with hlt | hge
  · -- the reader holds it, but the bits do not
    rw [value_of_lt hlt]
    simp only [if_neg (Nat.not_lt.mpr h)]
    exact ⟨_, rfl⟩
  · rcases value_of_le hge r with ⟨fault, hf⟩ | ⟨x, hx⟩
    · rw [hf]
      exact ⟨fault, rfl⟩
    · rw [hx]
      exact ⟨_, rfl⟩

/-! ## Writing -/

theorem writeNat_eq (n : Nat) : writeNat n = Nat.toDigits 10 n := Nat.toList_repr

/-- The octet of a digit. -/
theorem encode_digitChar (h : n < 10) :
    String.utf8EncodeChar n.digitChar = [UInt8.ofNat (0x30 + n)] := by
  have hdigits : ∀ n < 10, n.digitChar.toNat = 0x30 + n := by decide
  have hn := hdigits n h
  rw [Utf8.encode_ascii (by omega), hn]

theorem digit_octet (h : n < 10) : isDigit (UInt8.ofNat (0x30 + n)) = true ∧
    (UInt8.ofNat (0x30 + n)).toNat - 0x30 = n := by
  have hn := Utf8.toNat_ofNat_octet (show 0x30 + n < 256 by omega)
  rw [isDigit_iff, hn]
  omega

/-- The digits of a number, from its last one on. -/
theorem octets_step (h : 10 ≤ n) : Utf8.encodeChars (writeNat n) =
    Utf8.encodeChars (writeNat (n / 10)) ++ [UInt8.ofNat (0x30 + n % 10)] := by
  have hlt : n % 10 < 10 := Nat.mod_lt n (by decide)
  rw [writeNat_eq, Nat.toDigits_of_base_le (by decide) h, Utf8.encodeChars_append, ← writeNat_eq,
    Utf8.encodeChars_cons, encode_digitChar hlt]
  rfl

theorem octets_digit (h : n < 10) :
    Utf8.encodeChars (writeNat n) = [UInt8.ofNat (0x30 + n)] := by
  rw [writeNat_eq, Nat.toDigits_of_lt_base h, Utf8.encodeChars_cons, encode_digitChar h]
  rfl

/-- **What is written for a number has its value.** -/
theorem decimal_octets (n : Nat) : decimal 0 (Utf8.encodeChars (writeNat n)) = n := by
  induction n using Nat.strongRecOn with
  | ind n ih =>
    rcases Nat.lt_or_ge n 10 with h | h
    · rw [octets_digit h, decimal_cons, (digit_octet h).2]
      simp [decimal]
    · have hlt : n % 10 < 10 := Nat.mod_lt n (by decide)
      rw [octets_step h, decimal_append, ih (n / 10) (by omega), decimal_cons, (digit_octet hlt).2]
      simp only [decimal, List.foldl_nil]
      omega

/-- Digits may be added to a number that does not begin with a zero. -/
theorem IsWhole.append (h : IsWhole v) (h0 : v ≠ [0x30]) (hd : isDigit d = true) :
    IsWhole (v ++ [d]) ∧ v ++ [d] ≠ [0x30] := by
  cases h with
  | zero => exact absurd rfl h0
  | @digits b ds hb hne hds =>
    refine ⟨.digits hb hne fun x hx => ?_, by simp⟩
    rcases List.mem_append.mp hx with hx | hx
    · exact hds x hx
    · rw [List.mem_singleton.mp hx]
      exact hd

/-- **What is written for a number is a whole number.** -/
theorem whole_octets (n : Nat) : IsWhole (Utf8.encodeChars (writeNat n)) := by
  -- a number that is not zero does not begin with a zero, so digits may be added behind it
  have key : 0 < n → IsWhole (Utf8.encodeChars (writeNat n)) ∧
      Utf8.encodeChars (writeNat n) ≠ [0x30] := by
    induction n using Nat.strongRecOn with
    | ind n ih =>
      intro hn
      rcases Nat.lt_or_ge n 10 with h | h
      · have hne : UInt8.ofNat (0x30 + n) ≠ 0x30 := by
          intro he
          have := congrArg UInt8.toNat he
          rw [Utf8.toNat_ofNat_octet (by omega)] at this
          have h30 : (0x30 : UInt8).toNat = 0x30 := rfl
          omega
        rw [octets_digit h]
        exact ⟨.digits (digit_octet h).1 hne (by simp), by simpa using hne⟩
      · obtain ⟨hwhole, hne⟩ := ih (n / 10) (by omega) (by omega)
        rw [octets_step h]
        exact hwhole.append hne (digit_octet (Nat.mod_lt n (by decide))).1
  rcases Nat.eq_zero_or_pos n with rfl | hn
  · exact .zero
  · exact (key hn).1

/-- A number that is written and fits is read back. -/
theorem nat_takes (hbits : bits ≤ 64) (h : n < Nat.pow 2 bits) :
    (Reader.unsigned bits).Takes (Utf8.encodeChars (writeNat n)) n := by
  have := unsigned_takes (whole_octets n) hbits (by rw [decimal_octets]; exact h)
  rwa [decimal_octets] at this

/-- A number that is written and does not fit is refused. -/
theorem nat_refuses (h : Nat.pow 2 bits ≤ n) :
    (Reader.unsigned bits).Refuses (Utf8.encodeChars (writeNat n)) :=
  unsigned_refuses (whole_octets n) (by rw [decimal_octets]; exact h)

end OutboxProvisioning.Json
