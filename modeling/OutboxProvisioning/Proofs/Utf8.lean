import OutboxProvisioning.Text.Utf8

/-!
# Characters and their octets

Reading UTF-8 undoes writing it, and takes nothing that is not written so. Between the two stands
the table of well-formed sequences.

* `Sequence`: the table, one row for each number of octets.
* `next_encode`: the first character of the octets of a character is that character.
* `encode_of_next`: whatever is read as a character is how that character is written.
* `encode_ascii`: a character of ASCII is written as its number.
-/

namespace OutboxProvisioning.Utf8

variable {n : Nat} {a b : UInt8} {s t r rest : Bytes} {c : Char}

theorem toNat_ofNat_char (h : n < 0xD800 ∨ 0xDFFF < n ∧ n < 0x110000) :
    (Char.ofNat n).toNat = n := by
  have hv : n.isValidChar := h
  rw [Char.ofNat, dif_pos hv]
  rfl

theorem toNat_ofNat_octet (h : n < 256) : (UInt8.ofNat n).toNat = n := by
  rw [UInt8.toNat_ofNat', Nat.mod_eq_of_lt h]

theorem octet_eq_iff : a = b ↔ a.toNat = b.toNat := UInt8.toNat_inj.symm

theorem isContinuation_iff : isContinuation b = true ↔ 0x80 ≤ b.toNat ∧ b.toNat ≤ 0xBF := by
  simp [isContinuation, UInt8.le_iff_toNat_le]

theorem secondOfThree_iff : secondOfThree a b = true ↔
    0x80 ≤ b.toNat ∧ b.toNat ≤ 0xBF ∧ (a.toNat = 0xE0 → 0xA0 ≤ b.toNat) ∧
      (a.toNat = 0xED → b.toNat ≤ 0x9F) := by
  unfold secondOfThree
  by_cases h : a.toNat = 0xE0
  · rw [if_pos (octet_eq_iff.mpr h)]
    simp [UInt8.le_iff_toNat_le, h]
    omega
  · rw [if_neg (fun ha => h (octet_eq_iff.mp ha))]
    by_cases h' : a.toNat = 0xED
    · rw [if_pos (octet_eq_iff.mpr h')]
      simp [UInt8.le_iff_toNat_le, h']
      omega
    · rw [if_neg (fun ha => h' (octet_eq_iff.mp ha)), isContinuation_iff]
      simp [h, h']

theorem secondOfFour_iff : secondOfFour a b = true ↔
    0x80 ≤ b.toNat ∧ b.toNat ≤ 0xBF ∧ (a.toNat = 0xF0 → 0x90 ≤ b.toNat) ∧
      (a.toNat = 0xF4 → b.toNat ≤ 0x8F) := by
  unfold secondOfFour
  by_cases h : a.toNat = 0xF0
  · rw [if_pos (octet_eq_iff.mpr h)]
    simp [UInt8.le_iff_toNat_le, h]
    omega
  · rw [if_neg (fun ha => h (octet_eq_iff.mp ha))]
    by_cases h' : a.toNat = 0xF4
    · rw [if_pos (octet_eq_iff.mpr h')]
      simp [UInt8.le_iff_toNat_le, h']
      omega
    · rw [if_neg (fun ha => h' (octet_eq_iff.mp ha)), isContinuation_iff]
      simp [h, h']

/-- The octets of the character with the number `n`: one row for each number of octets. -/
inductive Sequence (n : Nat) : Bytes → Prop
  | one {a : UInt8} : a.toNat < 0x80 → n = a.toNat → Sequence n [a]
  | two {a b : UInt8} : 0xC2 ≤ a.toNat → a.toNat < 0xE0 → isContinuation b = true →
      n = a.toNat % 32 * 64 + low b → Sequence n [a, b]
  | three {a b c : UInt8} : 0xE0 ≤ a.toNat → a.toNat < 0xF0 → secondOfThree a b = true →
      isContinuation c = true → n = a.toNat % 16 * 4096 + low b * 64 + low c → Sequence n [a, b, c]
  | four {a b c d : UInt8} : 0xF0 ≤ a.toNat → a.toNat < 0xF5 → secondOfFour a b = true →
      isContinuation c = true → isContinuation d = true →
      n = a.toNat % 8 * 262144 + low b * 4096 + low c * 64 + low d → Sequence n [a, b, c, d]

namespace Sequence

/-- Only the numbers of characters have sequences. -/
theorem valid (h : Sequence n s) : n < 0xD800 ∨ 0xDFFF < n ∧ n < 0x110000 := by
  -- the second octet keeps out surrogates after 0xED, and what lies past the last number after 0xF4
  cases h with
  | one ha hn => omega
  | @two a b ha ha' hb hn =>
    have hb := isContinuation_iff.mp hb
    unfold low at hn
    omega
  | @three a b c ha ha' hb hc hn =>
    have hb := secondOfThree_iff.mp hb
    have hc := isContinuation_iff.mp hc
    unfold low at hn
    omega
  | @four a b c d ha ha' hb hc hd hn =>
    have hb := secondOfFour_iff.mp hb
    have hc := isContinuation_iff.mp hc
    have hd := isContinuation_iff.mp hd
    unfold low at hn
    omega

/-- A character of ASCII is its own octet; the octets of another are none of ASCII. -/
theorem octets (h : Sequence n s) (ha : a ∈ s) :
    a.toNat < 0x80 ∧ n = a.toNat ∧ s = [a] ∨ 0x80 ≤ a.toNat ∧ 0x80 ≤ n := by
  cases h with
  | one hb hn =>
    rw [List.mem_singleton] at ha
    rw [ha]
    exact .inl ⟨hb, hn, rfl⟩
  | @two x b hx hx' hb hn =>
    have hb := isContinuation_iff.mp hb
    unfold low at hn
    simp only [List.mem_cons, List.not_mem_nil, or_false] at ha
    rcases ha with rfl | rfl <;> omega
  | @three x b c hx hx' hb hc hn =>
    have hb := secondOfThree_iff.mp hb
    have hc := isContinuation_iff.mp hc
    unfold low at hn
    simp only [List.mem_cons, List.not_mem_nil, or_false] at ha
    rcases ha with rfl | rfl | rfl <;> omega
  | @four x b c d hx hx' hb hc hd hn =>
    have hb := secondOfFour_iff.mp hb
    have hc := isContinuation_iff.mp hc
    have hd := isContinuation_iff.mp hd
    unfold low at hn
    simp only [List.mem_cons, List.not_mem_nil, or_false] at ha
    rcases ha with rfl | rfl | rfl | rfl <;> omega

/-- A character is written in a sequence of its number. -/
theorem encode (c : Char) : Sequence c.toNat (String.utf8EncodeChar c) := by
  have hc : c.toNat < 0xD800 ∨ 0xDFFF < c.toNat ∧ c.toNat < 0x110000 := c.valid
  have hv : c.val.toNat = c.toNat := rfl
  unfold String.utf8EncodeChar
  simp only [hv]
  -- the writer has one branch for each row, by the size of the number
  split
  · exact .one (by rw [toNat_ofNat_octet] <;> omega) (by rw [toNat_ofNat_octet]; omega)
  split
  · refine .two ?_ ?_ ?_ ?_
    · rw [toNat_ofNat_octet] <;> omega
    · rw [toNat_ofNat_octet] <;> omega
    · rw [isContinuation_iff, toNat_ofNat_octet] <;> omega
    · unfold low
      rw [toNat_ofNat_octet, toNat_ofNat_octet] <;> omega
  split
  · refine .three ?_ ?_ ?_ ?_ ?_
    · rw [toNat_ofNat_octet] <;> omega
    · rw [toNat_ofNat_octet] <;> omega
    · rw [secondOfThree_iff, toNat_ofNat_octet, toNat_ofNat_octet] <;> omega
    · rw [isContinuation_iff, toNat_ofNat_octet] <;> omega
    · unfold low
      rw [toNat_ofNat_octet, toNat_ofNat_octet, toNat_ofNat_octet] <;> omega
  · refine .four ?_ ?_ ?_ ?_ ?_ ?_
    · rw [toNat_ofNat_octet] <;> omega
    · rw [toNat_ofNat_octet] <;> omega
    · rw [secondOfFour_iff, toNat_ofNat_octet, toNat_ofNat_octet] <;> omega
    · rw [isContinuation_iff, toNat_ofNat_octet] <;> omega
    · rw [isContinuation_iff, toNat_ofNat_octet] <;> omega
    · unfold low
      rw [toNat_ofNat_octet, toNat_ofNat_octet, toNat_ofNat_octet, toNat_ofNat_octet] <;> omega

theorem ofNat_eq_octet (h : n = a.toNat) : UInt8.ofNat n = a := by
  rw [h, UInt8.ofNat_toNat]

/-- The sequence of a character is how it is written: in its row, every octet is fixed by the
number. -/
theorem eq_encode (h : Sequence c.toNat s) : s = String.utf8EncodeChar c := by
  have hv : c.val.toNat = c.toNat := rfl
  unfold String.utf8EncodeChar
  simp only [hv]
  -- the numbers of a row are those for which the writer takes it
  cases h with
  | one ha hn => rw [if_pos (by omega), ofNat_eq_octet hn]
  | @two a b ha ha' hb hn =>
    have hb := isContinuation_iff.mp hb
    unfold low at hn
    rw [if_neg (by omega), if_pos (by omega), ofNat_eq_octet (a := a) (by omega),
      ofNat_eq_octet (a := b) (by omega)]
  | @three a b d ha ha' hb hd hn =>
    have hb := secondOfThree_iff.mp hb
    have hd := isContinuation_iff.mp hd
    unfold low at hn
    rw [if_neg (by omega), if_neg (by omega), if_pos (by omega),
      ofNat_eq_octet (a := a) (by omega), ofNat_eq_octet (a := b) (by omega),
      ofNat_eq_octet (a := d) (by omega)]
  | @four a b d e ha ha' hb hd he hn =>
    have hb := secondOfFour_iff.mp hb
    have hd := isContinuation_iff.mp hd
    have he := isContinuation_iff.mp he
    unfold low at hn
    rw [if_neg (by omega), if_neg (by omega), if_neg (by omega),
      ofNat_eq_octet (a := a) (by omega), ofNat_eq_octet (a := b) (by omega),
      ofNat_eq_octet (a := d) (by omega), ofNat_eq_octet (a := e) (by omega)]

/-- A sequence is read as the character with its number. -/
theorem next (h : Sequence n (a :: t)) (r : Bytes) :
    Utf8.next a (t ++ r) = .char (Char.ofNat n) r := by
  unfold Utf8.next
  simp only [UInt8.lt_iff_toNat_lt]
  -- the first octet alone says which row it is
  cases h with
  | one ha hn => simp [ha, hn]
  | two ha ha' hb hn =>
    rw [if_neg (by simp; omega), if_neg (by simp; omega), if_pos (by simp; omega)]
    simp [nextTwo, hb, hn]
  | three ha ha' hb hc hn =>
    rw [if_neg (by simp; omega), if_neg (by simp; omega), if_neg (by simp; omega),
      if_pos (by simp; omega)]
    simp [nextThree, hb, hc, hn]
  | four ha ha' hb hc hd hn =>
    rw [if_neg (by simp; omega), if_neg (by simp; omega), if_neg (by simp; omega),
      if_neg (by simp; omega), if_pos (by simp; omega)]
    simp [nextFour, hb, hc, hd, hn]

end Sequence

theorem sequence_of_nextTwo (ha : 0xC2 ≤ a.toNat) (ha' : a.toNat < 0xE0)
    (h : nextTwo a r = .char c rest) :
    ∃ n t, c = Char.ofNat n ∧ r = t ++ rest ∧ Sequence n (a :: t) := by
  unfold nextTwo at h
  split at h
  · cases h
  · split at h
    · next hb =>
      simp only [Next.char.injEq] at h
      exact ⟨_, [_], h.1.symm, by simp [h.2], .two ha ha' hb rfl⟩
    · cases h

theorem sequence_of_nextThree (ha : 0xE0 ≤ a.toNat) (ha' : a.toNat < 0xF0)
    (h : nextThree a r = .char c rest) :
    ∃ n t, c = Char.ofNat n ∧ r = t ++ rest ∧ Sequence n (a :: t) := by
  unfold nextThree at h
  split at h
  · cases h
  · split at h
    · next hb =>
      split at h
      · cases h
      · split at h
        · next hc =>
          simp only [Next.char.injEq] at h
          exact ⟨_, [_, _], h.1.symm, by simp [h.2], .three ha ha' hb hc rfl⟩
        · cases h
    · cases h

theorem sequence_of_nextFour (ha : 0xF0 ≤ a.toNat) (ha' : a.toNat < 0xF5)
    (h : nextFour a r = .char c rest) :
    ∃ n t, c = Char.ofNat n ∧ r = t ++ rest ∧ Sequence n (a :: t) := by
  unfold nextFour at h
  split at h
  · cases h
  · split at h
    · next hb =>
      split at h
      · cases h
      · split at h
        · next hc =>
          split at h
          · cases h
          · split at h
            · next hd =>
              simp only [Next.char.injEq] at h
              exact ⟨_, [_, _, _], h.1.symm, by simp [h.2], .four ha ha' hb hc hd rfl⟩
            · cases h
        · cases h
    · cases h

/-- What is read as a character is a sequence of its number. -/
theorem sequence_of_next (h : next a r = .char c rest) :
    ∃ n t, c = Char.ofNat n ∧ r = t ++ rest ∧ Sequence n (a :: t) := by
  unfold next at h
  simp only [UInt8.lt_iff_toNat_lt] at h
  split at h
  · next h1 =>
    simp only [Next.char.injEq] at h
    exact ⟨_, [], h.1.symm, h.2, .one h1 rfl⟩
  split at h
  · cases h
  next h2 =>
  split at h
  · next h3 => exact sequence_of_nextTwo (Nat.not_lt.mp h2) h3 h
  next h3 =>
  split at h
  · next h4 => exact sequence_of_nextThree (Nat.not_lt.mp h3) h4 h
  next h4 =>
  split at h
  · next h5 => exact sequence_of_nextFour (Nat.not_lt.mp h4) h5 h
  · cases h

/-- **The octets of a character are read as that character**, whatever follows. -/
theorem next_encode (c : Char) (r : Bytes) :
    ∃ a t, String.utf8EncodeChar c = a :: t ∧ next a (t ++ r) = .char c r := by
  have hs := Sequence.encode c
  cases he : String.utf8EncodeChar c with
  | nil =>
    rw [he] at hs
    cases hs
  | cons a t =>
    rw [he] at hs
    have hn := hs.next r
    rw [Char.ofNat_toNat] at hn
    exact ⟨a, t, rfl, hn⟩

/-- **What is read as a character is how that character is written.** -/
theorem encode_of_next (h : next a r = .char c rest) :
    a :: r = String.utf8EncodeChar c ++ rest := by
  obtain ⟨n, t, rfl, rfl, hs⟩ := sequence_of_next h
  have hn : (Char.ofNat n).toNat = n := toNat_ofNat_char hs.valid
  rw [← hn] at hs
  rw [← hs.eq_encode, List.cons_append]

/-- A character of ASCII is written as its number. -/
theorem encode_ascii (h : c.toNat < 0x80) : String.utf8EncodeChar c = [UInt8.ofNat c.toNat] := by
  have hn := toNat_ofNat_octet (show c.toNat < 256 by omega)
  exact (Sequence.eq_encode (.one (by omega) hn.symm)).symm

theorem encodeChars_append (cs ds : List Char) :
    encodeChars (cs ++ ds) = encodeChars cs ++ encodeChars ds := List.flatMap_append

theorem encodeChars_cons (c : Char) (cs : List Char) :
    encodeChars (c :: cs) = String.utf8EncodeChar c ++ encodeChars cs := List.flatMap_cons

end OutboxProvisioning.Utf8
