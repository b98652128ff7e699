import Mathlib.Algebra.Group.Nat.Defs
import OutboxProvisioning.Uuid.Reader

/-!
# Identifiers, written and read

The hyphenated form of an identifier spells that identifier.

* `ofDigits_digits`: an identifier is the number of its digits.
* `ofGrouped?_groups`: five groups joined by hyphens are read as their digits.
* `ofString_toString`: **what is written for an identifier is read as it.**
-/

namespace OutboxProvisioning.Uuid

variable {n value : Nat} {ds : List Nat}

/-! ## Digits -/

/-- The last digits of a number are the rest of it modulo a power of sixteen. -/
theorem foldl_nibbles (n value start : Nat) :
    (nibbles n value).foldl (fun n d => n * 16 + d) start = start * 16 ^ n + value % 16 ^ n := by
  induction n generalizing start with
  | zero => simp [nibbles, Nat.mod_one]
  | succ n ih =>
    have hpow : Nat.pow 16 n = 16 ^ n := rfl
    rw [nibbles, List.foldl_cons, ih, hpow]
    -- the first digit is what stands above the power that is left
    have hmod : value % 16 ^ (n + 1) = 16 ^ n * (value / 16 ^ n % 16) + value % 16 ^ n := by
      rw [Nat.pow_succ, Nat.mod_mul]
      omega
    rw [hmod, Nat.pow_succ, Nat.add_mul, Nat.mul_comm (value / 16 ^ n % 16)]
    simp only [Nat.mul_assoc, Nat.mul_comm (16 ^ n) 16]
    omega

/-- **An identifier is the number of its digits.** -/
theorem ofDigits_digits (u : Uuid) : ofDigits u.digits = u := by
  have hlt : u.bits.toNat < 16 ^ 32 := u.bits.isLt
  rw [ofDigits, digits, foldl_nibbles, Nat.zero_mul, Nat.zero_add, Nat.mod_eq_of_lt hlt,
    BitVec.ofNat_toNat, BitVec.setWidth_eq]

theorem nibbles_lt {d : Nat} (h : d ∈ nibbles n value) : d < 16 := by
  induction n with
  | zero => cases h
  | succ n ih =>
    rcases List.mem_cons.mp h with rfl | h
    · exact Nat.mod_lt _ (by decide)
    · exact ih h

theorem digit?_digitChar {d : Nat} (h : d < 16) : digit? (digitChar d) = some d := by
  have hdigits : ∀ d < 16, digit? (digitChar d) = some d := by decide
  exact hdigits d h

theorem mapM_digits (h : ∀ d ∈ ds, d < 16) : (ds.map digitChar).mapM digit? = some ds := by
  induction ds with
  | nil => rfl
  | cons d ds ih =>
    obtain ⟨hd, hds⟩ := List.forall_mem_cons.mp h
    rw [List.map_cons, List.mapM_cons, digit?_digitChar hd, ih hds]
    rfl

theorem ofSimple?_digits (u : Uuid) : ofSimple? (u.digits.map digitChar) = some u := by
  have hlength : (u.digits.map digitChar).length = 32 := by
    rw [List.length_map, length_digits]
  have hdigits : ∀ d ∈ u.digits, d < 16 := fun d hd => nibbles_lt hd
  rw [ofSimple?, if_pos hlength, mapM_digits hdigits]
  exact congrArg some (ofDigits_digits u)

/-! ## Groups -/

/-- What follows a group and its hyphen. -/
theorem drop_group {a : List Char} (ha : a.length + 1 = n) (r : List Char) :
    (a ++ '-' :: r).drop n = r := by
  rw [← ha, List.drop_append]
  simp

/-- Five groups joined by hyphens are read as their digits. -/
theorem ofGrouped?_groups {a b c d e : List Char} (ha : a.length = 8) (hb : b.length = 4)
    (hc : c.length = 4) (hd : d.length = 4) (he : e.length = 12) :
    ofGrouped? (a ++ '-' :: (b ++ '-' :: (c ++ '-' :: (d ++ '-' :: e)))) =
      ofSimple? (a ++ b ++ c ++ d ++ e) := by
  generalize hs : a ++ '-' :: (b ++ '-' :: (c ++ '-' :: (d ++ '-' :: e))) = s
  have hlength : s.length = 36 := by
    rw [← hs]
    simp [ha, hb, hc, hd, he]
  have h9 : s.drop 9 = b ++ '-' :: (c ++ '-' :: (d ++ '-' :: e)) := by
    rw [← hs, drop_group (by omega)]
  have h14 : s.drop 14 = c ++ '-' :: (d ++ '-' :: e) := by
    rw [show 14 = 9 + 5 from rfl, ← List.drop_drop, h9, drop_group (by omega)]
  have h19 : s.drop 19 = d ++ '-' :: e := by
    rw [show 19 = 14 + 5 from rfl, ← List.drop_drop, h14, drop_group (by omega)]
  have h24 : s.drop 24 = e := by
    rw [show 24 = 19 + 5 from rfl, ← List.drop_drop, h19, drop_group (by omega)]
  have hhyphens : hyphens.all (fun i => s[i]? == some '-') = true := by
    rw [← hs]
    simp [hyphens, List.getElem?_append, List.getElem?_cons, ha, hb, hc, hd]
  have ha' : s.take 8 = a := by rw [← hs, List.take_left' ha]
  rw [ofGrouped?, hlength, hhyphens, h9, h14, h19, h24, ha', List.take_left' hb, List.take_left' hc,
    List.take_left' hd]
  rfl

/-- The hyphenated form is its digits in five groups. -/
theorem chars_groups (u : Uuid) : ∃ a b c d e : List Char, a.length = 8 ∧ b.length = 4 ∧
    c.length = 4 ∧ d.length = 4 ∧ e.length = 12 ∧
    u.chars = a ++ '-' :: (b ++ '-' :: (c ++ '-' :: (d ++ '-' :: e))) ∧
    a ++ b ++ c ++ d ++ e = u.digits.map digitChar := by
  generalize hcs : u.digits.map digitChar = cs
  have hlength : cs.length = 32 := by
    rw [← hcs, List.length_map, length_digits]
  refine ⟨cs.take 8, (cs.drop 8).take 4, (cs.drop 12).take 4, (cs.drop 16).take 4, cs.drop 20,
    ?_, ?_, ?_, ?_, ?_, ?_, ?_⟩
  · simp [hlength]
  · simp [hlength]
  · simp [hlength]
  · simp [hlength]
  · simp [hlength]
  · simp [chars, hcs]
  · -- the groups are cut off one by one
    have h12 : cs.drop 12 = (cs.drop 8).drop 4 := by rw [List.drop_drop]
    have h16 : cs.drop 16 = (cs.drop 12).drop 4 := by rw [List.drop_drop]
    have h20 : cs.drop 20 = (cs.drop 16).drop 4 := by rw [List.drop_drop]
    rw [h20, List.append_assoc, List.take_append_drop, h16, List.append_assoc,
      List.take_append_drop, h12, List.append_assoc, List.take_append_drop, List.take_append_drop]

/-- **What is written for an identifier is read as it.** -/
theorem ofString_toString (u : Uuid) : ofString u.toString = .ok u := by
  obtain ⟨a, b, c, d, e, ha, hb, hc, hd, he, hchars, hdigits⟩ := u.chars_groups
  have hlength : u.chars.length = 36 := by
    rw [hchars]
    simp [ha, hb, hc, hd, he]
  have hof : ofString? u.toString = some u := by
    rw [ofString?, toString, String.toList_ofList, ofChars?, hlength,
      hchars, ofGrouped?_groups ha hb hc hd he, hdigits, ofSimple?_digits]
    rfl
  rw [ofString, hof]

end OutboxProvisioning.Uuid
