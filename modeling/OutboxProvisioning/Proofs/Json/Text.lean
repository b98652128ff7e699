import OutboxProvisioning.Proofs.Json.Grammar

/-!
# Strings, read and skipped

Reading a string takes exactly the octets that spell a text, and gives that text; skipping one
takes exactly the octets that have the shape of one. Neither looks past the closing quote.

* `scanText_spells`, `spells_of_scanText`: reading.
* `skipText_raw`, `raw_of_skipText`: skipping.
* `Spells.isRaw`: what can be read can be skipped.
-/

namespace OutboxProvisioning.Json

variable {b : UInt8} {c : Char} {cs acc : List Char} {n : Nat} {t : String}
  {ds e r rest s w raw : Bytes} {bad : Option Nat}

/-! ## White space -/

theorem Blank.nil : Blank [] := fun _ h => absurd h (List.not_mem_nil)

theorem Blank.append {w w' : Bytes} (h : Blank w) (h' : Blank w') : Blank (w ++ w') := by
  intro b hb
  rcases List.mem_append.mp hb with hb | hb
  · exact h b hb
  · exact h' b hb

theorem skipSpace_blank (h : Blank w) (s : Bytes) : skipSpace (w ++ s) = skipSpace s :=
  List.dropWhile_append_of_pos h

theorem skipSpace_cons (h : isSpace b = false) (r : Bytes) : skipSpace (b :: r) = b :: r := by
  simp [skipSpace, h]

theorem Blank.skipSpace (h : Blank w) : skipSpace w = [] := by
  have := skipSpace_blank h []
  rwa [List.append_nil] at this

/-- Before what is left there was white space. -/
theorem blank_of_skipSpace (s : Bytes) : ∃ w, Blank w ∧ s = w ++ skipSpace s := by
  refine ⟨s.takeWhile isSpace, ?_, (List.takeWhile_append_dropWhile).symm⟩
  exact fun b hb => List.all_eq_true.mp List.all_takeWhile b hb

/-! ## Escapes -/

theorem scanHex_hex (h : Hex n ds) (r : Bytes) : scanHex (ds ++ r) = .ok (n, r) := by
  cases h with
  | digits ha hb hc hd => simp [scanHex, ha, hb, hc, hd]

theorem hex_of_scanHex (h : scanHex s = .ok (n, r)) : ∃ ds, Hex n ds ∧ s = ds ++ r := by
  unfold scanHex at h
  split at h
  · split at h
    · next ha hb hc hd =>
      simp only [Except.ok.injEq, Prod.mk.injEq] at h
      obtain ⟨rfl, rfl⟩ := h
      exact ⟨_, .digits ha hb hc hd, rfl⟩
    · cases h
  · cases h

theorem shortEscape?_u : shortEscape? 0x75 = none := by decide

theorem scanEscape_escape (h : Escape e c) (r : Bytes) : scanEscape (e ++ r) = .ok (c, r) := by
  cases h with
  | short hb => simp [scanEscape, hb]
  | numbered hn hl hh =>
    simp [scanEscape, shortEscape?_u, scanNumbered, scanHex_hex hn, hl, hh]
  | @pair high low ds es hd hh he hl =>
    -- a first half is no second half
    have hlow : isLowSurrogate high = false := by
      simp only [isHighSurrogate, isLowSurrogate, Bool.and_eq_true, decide_eq_true_eq,
        Bool.and_eq_false_iff, decide_eq_false_iff_not] at hh ⊢
      omega
    simp [scanEscape, shortEscape?_u, scanNumbered, scanHex_hex hd, hlow, hh, scanLowHalf,
      scanHex_hex he, hl]

/-- What follows the first half of a surrogate pair is the second. -/
theorem lowHalf_of_scan {high : Nat} (h : scanLowHalf high s = .ok (c, r)) :
    ∃ low es, Hex low es ∧ isLowSurrogate low = true ∧ s = backslash :: 0x75 :: (es ++ r) ∧
      c = Char.ofNat (0x10000 + (high - 0xD800) * 0x400 + (low - 0xDC00)) := by
  unfold scanLowHalf at h
  split at h
  · cases h
  · split at h
    · next hb =>
      split at h
      · cases h
      · split at h
        · next hu =>
          split at h
          · cases h
          · next hs =>
            split at h
            · next hl =>
              simp only [Except.ok.injEq, Prod.mk.injEq] at h
              obtain ⟨rfl, rfl⟩ := h
              obtain ⟨es, he, rfl⟩ := hex_of_scanHex hs
              exact ⟨_, es, he, hl, by rw [hb, hu], rfl⟩
            · cases h
        · cases h
    · cases h

/-- What is scanned behind the `u` of an escape is a number, or both halves of a pair. -/
theorem escape_of_numbered (h : scanNumbered s = .ok (c, r)) :
    ∃ e, Escape (0x75 :: e) c ∧ s = e ++ r := by
  unfold scanNumbered at h
  split at h
  · cases h
  · next hs =>
    obtain ⟨ds, hd, rfl⟩ := hex_of_scanHex hs
    split at h
    · cases h
    · next hl =>
      split at h
      · next hh =>
        -- a first half: the second must follow as an escape of its own
        obtain ⟨low, es, he, hlow, hs, hc⟩ := lowHalf_of_scan h
        rw [hs, hc]
        refine ⟨_, .pair hd hh he hlow, ?_⟩
        simp only [List.cons_append, List.append_assoc]
      · next hh =>
        simp only [Except.ok.injEq, Prod.mk.injEq] at h
        obtain ⟨rfl, rfl⟩ := h
        exact ⟨_, .numbered hd (Bool.eq_false_iff.mpr hl) (Bool.eq_false_iff.mpr hh), rfl⟩

theorem escape_of_scan (h : scanEscape s = .ok (c, r)) : ∃ e, Escape e c ∧ s = e ++ r := by
  unfold scanEscape at h
  split at h
  · cases h
  · split at h
    · next hb =>
      simp only [Except.ok.injEq, Prod.mk.injEq] at h
      obtain ⟨rfl, rfl⟩ := h
      exact ⟨_, .short hb, rfl⟩
    · split at h
      · next hu =>
        subst hu
        obtain ⟨e, he, rfl⟩ := escape_of_numbered h
        exact ⟨_, he, rfl⟩
      · cases h

/-! ## Reading -/

theorem scanText_quote (acc : List Char) (r : Bytes) :
    scanText none acc (quote :: r) = .ok (String.ofList acc.reverse, r) := by
  rw [scanText, if_pos rfl]

theorem scanText_backslash (h : scanEscape s = .ok (c, rest)) (acc : List Char) :
    scanText none acc (backslash :: s) = scanText none (c :: acc) rest := by
  rw [scanText, if_neg (by decide), if_pos rfl]
  split
  · next hs =>
    rw [h] at hs
    cases hs
  · next hs =>
    rw [h] at hs
    cases hs
    rfl

theorem scanText_char (hb : 0x20 ≤ b.toNat) (hq : b ≠ quote) (hs : b ≠ backslash)
    (h : Utf8.next b r = .char c rest) (acc : List Char) :
    scanText none acc (b :: r) = scanText none (c :: acc) rest := by
  rw [scanText, if_neg hq, if_neg hs, if_neg (by simp [UInt8.lt_iff_toNat_lt]; omega)]
  split
  · next hn =>
    rw [h] at hn
    cases hn
    rfl
  · next hn =>
    rw [h] at hn
    cases hn

/-- The octets of a character that stands for itself are no quotes, backslashes or control
characters. -/
theorem plain_octets (hc : 0x20 ≤ c.toNat) (hq : c ≠ '\"') (hs : c ≠ '\\') :
    ∀ b ∈ String.utf8EncodeChar c, 0x20 ≤ b.toNat ∧ b ≠ quote ∧ b ≠ backslash := by
  intro b hb
  have hquote : c.toNat ≠ 0x22 := fun h => hq (Char.toNat_inj.mp h)
  have hback : c.toNat ≠ 0x5C := fun h => hs (Char.toNat_inj.mp h)
  have ho := (Utf8.Sequence.encode c).octets hb
  refine ⟨by omega, ?_, ?_⟩
  · intro h
    have hb : b.toNat = 0x22 := congrArg UInt8.toNat h
    omega
  · intro h
    have hb : b.toNat = 0x5C := congrArg UInt8.toNat h
    omega

/-- A character that begins with no quote, backslash or control character stands for itself. -/
theorem plain_of_next (hq : b ≠ quote) (hs : b ≠ backslash) (hb : ¬ b < 0x20)
    (h : Utf8.next b r = .char c rest) : 0x20 ≤ c.toNat ∧ c ≠ '\"' ∧ c ≠ '\\' := by
  have hquote : b.toNat ≠ 0x22 := fun h => hq (Utf8.octet_eq_iff.mpr h)
  have hback : b.toNat ≠ 0x5C := fun h => hs (Utf8.octet_eq_iff.mpr h)
  have hlow : 0x20 ≤ b.toNat := by
    rw [UInt8.lt_iff_toNat_lt] at hb
    exact Nat.not_lt.mp hb
  obtain ⟨n, t, rfl, -, hseq⟩ := Utf8.sequence_of_next h
  have hn := Utf8.toNat_ofNat_char hseq.valid
  have ho := hseq.octets List.mem_cons_self
  refine ⟨by omega, ?_, ?_⟩
  · intro hc
    have : (Char.ofNat n).toNat = 0x22 := congrArg Char.toNat hc
    omega
  · intro hc
    have : (Char.ofNat n).toNat = 0x5C := congrArg Char.toNat hc
    omega

/-- **A string is read as the text it spells.** -/
theorem scanText_spells (h : Spells raw cs) (acc : List Char) (r : Bytes) :
    scanText none acc (raw ++ quote :: r) = .ok (String.ofList (acc.reverse ++ cs), r) := by
  induction h generalizing acc with
  | nil => rw [List.nil_append, scanText_quote, List.append_nil]
  | @plain c raw cs hc hq hs _ ih =>
    obtain ⟨a, t, he, hn⟩ := Utf8.next_encode c (raw ++ quote :: r)
    have ho := plain_octets hc hq hs a (by rw [he]; exact List.mem_cons_self)
    rw [List.append_assoc, he, List.cons_append, scanText_char ho.1 ho.2.1 ho.2.2 hn, ih]
    simp
  | escape he _ ih =>
    rw [List.cons_append, List.append_assoc, scanText_backslash (scanEscape_escape he _), ih]
    simp

/-- **What is read as a string spells the text that is read.** -/
theorem spells_of_scanText (h : scanText bad acc s = .ok (t, r)) :
    bad = none ∧ ∃ raw cs, Spells raw cs ∧ s = raw ++ quote :: r ∧
      t = String.ofList (acc.reverse ++ cs) := by
  -- along the branches of the reader; `acc` is what has been read, in reverse
  fun_induction scanText bad acc s with
  | case1 => cases h
  | case2 acc r' =>
    simp only [Except.ok.injEq, Prod.mk.injEq] at h
    obtain ⟨rfl, rfl⟩ := h
    exact ⟨rfl, [], [], .nil, rfl, by simp⟩
  | case3 => cases h
  | case4 => cases h
  | case5 bad acc r' c rest he _ _ ih =>
    obtain ⟨hbad, raw, cs, hs, rfl, rfl⟩ := ih h
    obtain ⟨e, hesc, rfl⟩ := escape_of_scan he
    refine ⟨Option.map_eq_none_iff.mp hbad, _, _, .escape hesc hs, ?_, ?_⟩
    · simp only [List.cons_append, List.append_assoc]
    · simp
  | case6 => cases h
  | case7 bad acc b r' hq hs hb c rest hn _ ih =>
    obtain ⟨hbad, raw, cs, hspell, rfl, rfl⟩ := ih h
    obtain ⟨hc, hcq, hcs⟩ := plain_of_next hq hs hb hn
    refine ⟨Option.map_eq_none_iff.mp hbad, _, _, .plain hc hcq hcs hspell, ?_, ?_⟩
    · rw [Utf8.encode_of_next hn, List.append_assoc]
    · simp
  | case8 bad acc b r' _ _ _ why _ ih =>
    -- the fault that was met is never forgotten
    cases (ih h).1

/-- A string spells one text at most. -/
theorem Spells.unique {cs' : List Char} (h : Spells raw cs) (h' : Spells raw cs') : cs = cs' := by
  -- reading is a function, so what is read of the octets is both of them
  have h1 := scanText_spells h [] []
  rw [scanText_spells h' [] []] at h1
  simp only [Except.ok.injEq, Prod.mk.injEq, and_true, List.reverse_nil, List.nil_append] at h1
  exact (String.ofList_inj.mp h1).symm

/-! ## Skipping -/

theorem IsRaw.append (h : IsRaw raw) (hr : IsRaw r) : IsRaw (raw ++ r) := by
  induction h with
  | nil => exact hr
  | plain hb hq hs _ ih => exact .plain hb hq hs ih
  | escape he _ ih =>
    rw [List.cons_append, List.append_assoc]
    exact .escape he ih

theorem isRaw_of_plain (h : ∀ b ∈ raw, 0x20 ≤ b.toNat ∧ b ≠ quote ∧ b ≠ backslash) :
    IsRaw raw := by
  induction raw with
  | nil => exact .nil
  | cons b raw ih =>
    obtain ⟨hb, hq, hs⟩ := h b List.mem_cons_self
    exact .plain hb hq hs (ih fun b hb => h b (List.mem_cons_of_mem _ hb))

theorem Escape.isRaw (h : Escape e c) (hr : IsRaw r) : IsRaw (backslash :: (e ++ r)) := by
  cases h with
  | short hb => exact .escape (.short (by rw [hb]; rfl)) hr
  | numbered hn _ _ => exact .escape (.numbered hn) hr
  | pair hd _ he _ =>
    -- the halves of a pair are two escapes
    have hlow := IsRaw.escape (.numbered he) hr
    have hhigh := IsRaw.escape (.numbered hd) hlow
    simpa only [List.cons_append, List.append_assoc] using hhigh

/-- **What can be read can be skipped.** -/
theorem Spells.isRaw (h : Spells raw cs) : IsRaw raw := by
  induction h with
  | nil => exact .nil
  | plain hc hq hs _ ih => exact (isRaw_of_plain (plain_octets hc hq hs)).append ih
  | escape he _ ih => exact he.isRaw ih

theorem skipEscape_escape (h : IsEscape e) (r : Bytes) : skipEscape (e ++ r) = .ok r := by
  cases h with
  | short hb => simp [skipEscape, hb]
  | numbered hn => simp [skipEscape, shortEscape?_u, scanHex_hex hn, Except.map]

theorem isEscape_of_skip (h : skipEscape s = .ok r) : ∃ e, IsEscape e ∧ s = e ++ r := by
  unfold skipEscape at h
  split at h
  · cases h
  · split at h
    · next hb =>
      cases h
      exact ⟨_, .short hb, rfl⟩
    · split at h
      · next s' _ hu =>
        subst hu
        cases hs : scanHex s' with
        | error f =>
          rw [hs] at h
          cases h
        | ok p =>
          rw [hs] at h
          cases h
          obtain ⟨ds, hd, rfl⟩ := hex_of_scanHex hs
          exact ⟨_, .numbered hd, rfl⟩
      · cases h

/-- **A string is skipped up to its closing quote.** -/
theorem skipText_raw (h : IsRaw raw) (r : Bytes) : skipText (raw ++ quote :: r) = .ok r := by
  induction h with
  | nil => rw [List.nil_append, skipText, if_pos rfl]
  | @plain b raw hb hq hs _ ih =>
    rw [List.cons_append, skipText, if_neg hq, if_neg hs,
      if_neg (by rw [UInt8.lt_iff_toNat_lt]; exact Nat.not_lt.mpr hb), ih]
  | @escape e raw he _ ih =>
    rw [List.cons_append, List.append_assoc, skipText, if_neg (by decide), if_pos rfl]
    split
    · next hs =>
      rw [skipEscape_escape he] at hs
      cases hs
    · next hs =>
      rw [skipEscape_escape he] at hs
      cases hs
      exact ih

/-- **What is skipped as a string has the shape of one.** -/
theorem raw_of_skipText (h : skipText s = .ok r) : ∃ raw, IsRaw raw ∧ s = raw ++ quote :: r := by
  fun_induction skipText s with
  | case1 => cases h
  | case2 =>
    cases h
    exact ⟨[], .nil, rfl⟩
  | case3 => cases h
  | case4 r' rest he _ _ ih =>
    obtain ⟨raw, hraw, rfl⟩ := ih h
    obtain ⟨e, hesc, rfl⟩ := isEscape_of_skip he
    refine ⟨_, .escape hesc hraw, ?_⟩
    simp only [List.cons_append, List.append_assoc]
  | case5 => cases h
  | case6 b r' hq hs hb ih =>
    obtain ⟨raw, hraw, rfl⟩ := ih h
    rw [UInt8.lt_iff_toNat_lt] at hb
    exact ⟨_, .plain (Nat.not_lt.mp hb) hq hs hraw, rfl⟩

end OutboxProvisioning.Json
