import Mathlib.Data.List.TakeWhile
import Mathlib.Tactic.Positivity
import Mathlib.Tactic.Ring
import OutboxProvisioning.Proofs.Uuid
import OutboxProvisioning.Text.Blank

/-!
# Spellings of identifiers

An identifier has four spellings: its 32 digits; the digits in five groups joined by hyphens; the
groups in braces; the groups after the mark of a name. Letters are of either case throughout.

* `Spells`: what it is to spell an identifier, whoever reads it.
* `digits_ofDigits`: no two lists of digits stand for one identifier.
* `ofChars?_eq_some_iff`: **what is read is what is spelled**, and nothing else is read.
* `trimChars_spelled`: white space around a spelling goes, and nothing of it with that.
-/

namespace OutboxProvisioning.Uuid

variable {c : Char} {cs r : List Char} {ds : List Nat} {d : Nat} {u : Uuid}

/-- The 32 digits of an identifier, in either case of letters. -/
def IsDigits (u : Uuid) (cs : List Char) : Prop := cs.map Char.toLower = u.digits.map digitChar

/-- The digits in groups of 8, 4, 4, 4 and 12, joined by hyphens. -/
inductive IsGroups (u : Uuid) : List Char → Prop
  | joined {a b c d e : List Char} (ha : a.length = 8) (hb : b.length = 4) (hc : c.length = 4)
      (hd : d.length = 4) (he : e.length = 12) (h : u.IsDigits (a ++ b ++ c ++ d ++ e)) :
      IsGroups u (a ++ '-' :: (b ++ '-' :: (c ++ '-' :: (d ++ '-' :: e))))

/-- The spellings of an identifier. A name begins with one of the marks. -/
inductive Spells (marks : List Char → Prop) (u : Uuid) : List Char → Prop
  | plain {cs : List Char} (h : u.IsDigits cs) : Spells marks u cs
  | grouped {cs : List Char} (h : u.IsGroups cs) : Spells marks u cs
  | braced {cs : List Char} (h : u.IsGroups cs) : Spells marks u ('\x7b' :: (cs ++ ['\x7d']))
  | named {mark cs : List Char} (hmark : marks mark) (h : u.IsGroups cs) :
      Spells marks u (mark ++ cs)

/-- The mark of a name, in either case of letters. -/
def IsUrn (mark : List Char) : Prop := mark.map Char.toLower = urn

/-! ## Digits -/

theorem toLower_of_large (h : 128 ≤ c.toNat) : c.toLower = c := by
  have hupper : ¬ (c.val ≥ 'A'.val ∧ c.val ≤ 'Z'.val) := by
    rintro ⟨-, hz⟩
    have : c.toNat ≤ 90 := UInt32.le_iff_toNat_le.mp hz
    omega
  exact dif_neg hupper

theorem digit?_of_large (h : 128 ≤ c.toNat) : digit? c = none := by
  have hle : ∀ x : Char, x.toNat < 128 → decide (c ≤ x) = false := by
    intro x hx
    rw [decide_eq_false_iff_not, Char.le_def, UInt32.le_iff_toNat_le]
    change ¬ c.toNat ≤ x.toNat
    omega
  simp only [digit?, hle '9' (by decide), hle 'f' (by decide), hle 'F' (by decide),
    Bool.and_false, Bool.false_eq_true, if_false]

/-- What holds of the first 128 characters holds of each of them by its number. -/
theorem of_ascii {P : Char → Prop} (h : ∀ n < 128, P (Char.ofNat n)) (hc : c.toNat < 128) : P c := by
  have := h c.toNat hc
  rwa [Char.ofNat_toNat] at this

/-- A digit is a character that is the digit's own in small letters. -/
theorem digit?_eq_some_iff : digit? c = some d ↔ d < 16 ∧ c.toLower = digitChar d := by
  by_cases hc : c.toNat < 128
  · have hbound : (digit? c).all (· < 16) = true :=
      of_ascii (P := fun c => (digit? c).all (· < 16) = true) (by decide +kernel) hc
    have hsmall : ∀ d < 16, digit? c = some d ↔ c.toLower = digitChar d :=
      of_ascii (P := fun c => ∀ d < 16, digit? c = some d ↔ c.toLower = digitChar d)
        (by decide +kernel) hc
    constructor
    · intro h
      have hd : d < 16 := by simpa [h] using hbound
      exact ⟨hd, (hsmall d hd).mp h⟩
    · rintro ⟨hd, h⟩
      exact (hsmall d hd).mpr h
  · have hchars : ∀ d < 16, (digitChar d).toNat < 128 := by decide
    rw [digit?_of_large (Nat.le_of_not_lt hc), toLower_of_large (Nat.le_of_not_lt hc)]
    constructor
    · exact fun h => by cases h
    · rintro ⟨hd, rfl⟩
      exact absurd (hchars d hd) hc

theorem mapM_digit_eq_some_iff : cs.mapM digit? = some ds ↔
    (∀ d ∈ ds, d < 16) ∧ cs.map Char.toLower = ds.map digitChar := by
  induction cs generalizing ds with
  | nil => cases ds <;> simp
  | cons c cs ih =>
    cases ds with
    | nil => simp [Option.bind_eq_some_iff]
    | cons d ds =>
      simp only [List.mapM_cons, Option.bind_eq_bind, Option.bind_eq_some_iff, Option.pure_def,
        Option.some.injEq, List.cons.injEq, List.forall_mem_cons, List.map_cons]
      constructor
      · rintro ⟨d', hd, ds', hds, rfl, rfl⟩
        obtain ⟨hlt, hlower⟩ := digit?_eq_some_iff.mp hd
        obtain ⟨hall, hmap⟩ := ih.mp hds
        exact ⟨⟨hlt, hall⟩, hlower, hmap⟩
      · rintro ⟨⟨hlt, hall⟩, hlower, hmap⟩
        exact ⟨d, digit?_eq_some_iff.mpr ⟨hlt, hlower⟩, ds, ih.mpr ⟨hall, hmap⟩, rfl, rfl⟩

/-- Digits after others: the number before counts as often as there are numbers of so many digits. -/
theorem foldl_digits (ds : List Nat) (start : Nat) :
    ds.foldl (fun n d => n * 16 + d) start =
      start * 16 ^ ds.length + ds.foldl (fun n d => n * 16 + d) 0 := by
  induction ds generalizing start with
  | nil => simp
  | cons d ds ih =>
    rw [List.foldl_cons, List.foldl_cons, ih, ih (0 * 16 + d), List.length_cons, Nat.pow_succ]
    ring

theorem foldl_digits_lt (h : ∀ d ∈ ds, d < 16) :
    ds.foldl (fun n d => n * 16 + d) 0 < 16 ^ ds.length := by
  induction ds with
  | nil => simp
  | cons d ds ih =>
    obtain ⟨hd, hds⟩ := List.forall_mem_cons.mp h
    have hlt := ih hds
    rw [List.foldl_cons, foldl_digits, List.length_cons, Nat.pow_succ, Nat.zero_mul, Nat.zero_add]
    have : d * 16 ^ ds.length ≤ 15 * 16 ^ ds.length := Nat.mul_le_mul_right _ (by omega)
    omega

/-- The digits of a number are those it was made from. -/
theorem nibbles_foldl (h : ∀ d ∈ ds, d < 16) (start : Nat) :
    nibbles ds.length (ds.foldl (fun n d => n * 16 + d) start) = ds := by
  induction ds generalizing start with
  | nil => rfl
  | cons d ds ih =>
    obtain ⟨hd, hds⟩ := List.forall_mem_cons.mp h
    have hpow : Nat.pow 16 ds.length = 16 ^ ds.length := rfl
    have hfirst : ds.foldl (fun n d => n * 16 + d) (start * 16 + d) / 16 ^ ds.length =
        start * 16 + d := by
      rw [foldl_digits, Nat.mul_comm, Nat.mul_add_div (by positivity),
        Nat.div_eq_of_lt (foldl_digits_lt hds), Nat.add_zero]
    rw [List.length_cons, nibbles, List.foldl_cons, ih hds, hpow, hfirst]
    congr 1
    omega

/-- **No two lists of 32 digits stand for one identifier.** -/
theorem digits_ofDigits (hlength : ds.length = 32) (h : ∀ d ∈ ds, d < 16) :
    (ofDigits ds).digits = ds := by
  have hlt : ds.foldl (fun n d => n * 16 + d) 0 < 2 ^ 128 := by
    have := foldl_digits_lt h
    rwa [hlength] at this
  rw [digits, ofDigits, BitVec.toNat_ofNat, Nat.mod_eq_of_lt hlt, ← hlength]
  exact nibbles_foldl h 0

theorem IsDigits.length (h : u.IsDigits cs) : cs.length = 32 := by
  have := congrArg List.length h
  rwa [List.length_map, List.length_map, length_digits] at this

theorem ofSimple?_eq_some_iff : ofSimple? cs = some u ↔ u.IsDigits cs := by
  constructor
  · intro h
    unfold ofSimple? at h
    split at h
    · next hlength =>
      obtain ⟨ds, hds, rfl⟩ := Option.map_eq_some_iff.mp h
      obtain ⟨hall, hmap⟩ := mapM_digit_eq_some_iff.mp hds
      have hds : ds.length = 32 := by
        have := congrArg List.length hmap
        rwa [List.length_map, List.length_map, hlength, eq_comm] at this
      rw [IsDigits, digits_ofDigits hds hall, hmap]
    · cases h
  · intro h
    have hmap : cs.mapM digit? = some u.digits :=
      mapM_digit_eq_some_iff.mpr ⟨fun d hd => nibbles_lt hd, h⟩
    rw [ofSimple?, if_pos h.length, hmap]
    exact congrArg some (ofDigits_digits u)

/-! ## Groups, braces and names -/

theorem IsGroups.length (h : u.IsGroups cs) : cs.length = 36 := by
  cases h with
  | joined ha hb hc hd he _ => simp [ha, hb, hc, hd, he]

/-- The rest of a list, around one of its elements. -/
theorem drop_around {m n : Nat} (h : cs[m + n]? = some c) :
    cs.drop m = (cs.drop m).take n ++ c :: cs.drop (m + n + 1) := by
  obtain ⟨hn, rfl⟩ := List.getElem?_eq_some_iff.mp h
  rw [← List.drop_eq_getElem_cons hn, ← List.drop_drop, List.take_append_drop]

theorem ofGrouped?_eq_some_iff : ofGrouped? cs = some u ↔ u.IsGroups cs := by
  constructor
  · intro h
    unfold ofGrouped? at h
    split at h
    · next hshape =>
      simp only [hyphens, List.all_cons, List.all_nil, Bool.and_true, Bool.and_eq_true,
        decide_eq_true_eq, beq_iff_eq] at hshape
      obtain ⟨hlength, h8, h13, h18, h23⟩ := hshape
      -- the text falls apart at its hyphens, one after the other
      have e8 : cs = cs.take 8 ++ '-' :: cs.drop 9 := drop_around (m := 0) h8
      have e13 : cs.drop 9 = (cs.drop 9).take 4 ++ '-' :: cs.drop 14 := drop_around h13
      have e18 : cs.drop 14 = (cs.drop 14).take 4 ++ '-' :: cs.drop 19 := drop_around h18
      have e23 : cs.drop 19 = (cs.drop 19).take 4 ++ '-' :: cs.drop 24 := drop_around h23
      rw [e8, e13, e18, e23]
      exact .joined (by simp [hlength]) (by simp [hlength]) (by simp [hlength])
        (by simp [hlength]) (by simp [hlength]) (ofSimple?_eq_some_iff.mp h)
    · cases h
  · rintro ⟨ha, hb, hc, hd, he, h⟩
    rw [ofGrouped?_groups ha hb hc hd he]
    exact ofSimple?_eq_some_iff.mpr h

theorem stripBraces?_eq_some_iff :
    stripBraces? cs = some r ↔ cs = '\x7b' :: (r ++ ['\x7d']) := by
  cases cs with
  | nil => simp [stripBraces?]
  | cons c cs =>
    simp only [stripBraces?, Bool.and_eq_true, decide_eq_true_eq, Option.ite_none_right_eq_some,
      Option.some.injEq, List.cons.injEq]
    constructor
    · rintro ⟨⟨rfl, hlast⟩, rfl⟩
      exact ⟨rfl, (List.dropLast_append_getLast? _ hlast).symm⟩
    · rintro ⟨rfl, rfl⟩
      exact ⟨⟨rfl, by simp⟩, by simp⟩

theorem IsUrn.length {mark : List Char} (h : IsUrn mark) : mark.length = urn.length := by
  rw [← h, List.length_map]

theorem stripUrn?_eq_some_iff : stripUrn? cs = some r ↔ ∃ mark, IsUrn mark ∧ cs = mark ++ r := by
  simp only [stripUrn?, Option.ite_none_right_eq_some, Option.some.injEq]
  constructor
  · rintro ⟨hmark, rfl⟩
    exact ⟨_, hmark, (List.take_append_drop _ _).symm⟩
  · rintro ⟨mark, hmark, rfl⟩
    rw [List.take_left' hmark.length, List.drop_left' hmark.length]
    exact ⟨hmark, rfl⟩

/-- **What is read is what is spelled.** -/
theorem ofChars?_eq_some_iff : ofChars? cs = some u ↔ Spells IsUrn u cs := by
  constructor
  · intro h
    unfold ofChars? at h
    split at h
    · exact .plain (ofSimple?_eq_some_iff.mp h)
    · exact .grouped (ofGrouped?_eq_some_iff.mp h)
    · obtain ⟨r, hr, h⟩ := Option.bind_eq_some_iff.mp h
      rw [stripBraces?_eq_some_iff.mp hr]
      exact .braced (ofGrouped?_eq_some_iff.mp h)
    · obtain ⟨r, hr, h⟩ := Option.bind_eq_some_iff.mp h
      obtain ⟨mark, hmark, hcs⟩ := stripUrn?_eq_some_iff.mp hr
      rw [hcs]
      exact .named hmark (ofGrouped?_eq_some_iff.mp h)
    · cases h
  · -- each spelling has a length of its own
    intro h
    cases h with
    | plain h =>
      simp only [ofChars?, h.length]
      exact ofSimple?_eq_some_iff.mpr h
    | grouped h =>
      simp only [ofChars?, h.length]
      exact ofGrouped?_eq_some_iff.mpr h
    | braced h =>
      simp only [ofChars?, List.length_cons, List.length_append, List.length_nil, h.length,
        stripBraces?_eq_some_iff.mpr rfl, Option.bind_some]
      exact ofGrouped?_eq_some_iff.mpr h
    | named hmark h =>
      have hurn : urn.length = 9 := rfl
      simp only [ofChars?, List.length_append, hmark.length, hurn, h.length,
        stripUrn?_eq_some_iff.mpr ⟨_, hmark, rfl⟩, Option.bind_some]
      exact ofGrouped?_eq_some_iff.mpr h

/-- What stands in groups that are joined is a hyphen or stands in one of the groups. -/
theorem mem_joined {a b c d e : List Char} {x : Char}
    (h : x ∈ a ++ '-' :: (b ++ '-' :: (c ++ '-' :: (d ++ '-' :: e)))) :
    x = '-' ∨ x ∈ a ++ b ++ c ++ d ++ e := by
  simp only [List.mem_append, List.mem_cons] at h ⊢
  tauto

/-- The hyphenated form is one of the spellings, without capitals. -/
theorem chars_spelled (u : Uuid) : u.IsGroups u.chars ∧ ∀ c ∈ u.chars, c.toLower = c := by
  obtain ⟨a, b, c, d, e, ha, hb, hc, hd, he, hchars, hdigits⟩ := u.chars_groups
  have hsmall : ∀ n < 16, (digitChar n).toLower = digitChar n := by decide
  have hlower : ∀ x ∈ a ++ b ++ c ++ d ++ e, x.toLower = x := by
    rw [hdigits, List.forall_mem_map]
    exact fun n hn => hsmall n (nibbles_lt hn)
  have hisDigits : u.IsDigits (a ++ b ++ c ++ d ++ e) := by
    rw [IsDigits, List.map_congr_left hlower, List.map_id', hdigits]
  rw [hchars]
  refine ⟨.joined ha hb hc hd he hisDigits, fun x hx => ?_⟩
  rcases mem_joined hx with rfl | hx
  · decide
  · exact hlower x hx

/-! ## White space around a spelling -/

/-- A character that is no blank as a small letter is none at all. -/
theorem isBlank_of_toLower (h : Text.isBlank c.toLower = false) : Text.isBlank c = false := by
  by_cases hc : c.toNat < 128
  · exact of_ascii (P := fun c => Text.isBlank c.toLower = false → Text.isBlank c = false)
      (by decide +kernel) hc h
  · rwa [toLower_of_large (Nat.le_of_not_lt hc)] at h

theorem IsDigits.not_blank (h : u.IsDigits cs) : ∀ c ∈ cs, Text.isBlank c = false := by
  have hdigits : ∀ d < 16, Text.isBlank (digitChar d) = false := by decide
  intro c hc
  have hmem : c.toLower ∈ u.digits.map digitChar := h ▸ List.mem_map_of_mem hc
  obtain ⟨d, hd, hlower⟩ := List.mem_map.mp hmem
  exact isBlank_of_toLower (hlower ▸ hdigits d (nibbles_lt hd))

theorem IsGroups.not_blank (h : u.IsGroups cs) : ∀ c ∈ cs, Text.isBlank c = false := by
  cases h with
  | joined ha hb hc hd he h =>
    intro x hx
    rcases mem_joined hx with rfl | hx
    · decide
    · exact h.not_blank x hx

theorem IsUrn.not_blank {mark : List Char} (h : IsUrn mark) :
    ∀ c ∈ mark, Text.isBlank c = false := by
  have hurn : urn.all (!Text.isBlank ·) = true := by decide
  intro c hc
  have hmem : c.toLower ∈ urn := h ▸ List.mem_map_of_mem hc
  exact isBlank_of_toLower (by simpa using List.all_eq_true.mp hurn _ hmem)

/-- There is no white space in a spelling. -/
theorem Spells.not_blank (h : Spells IsUrn u cs) : ∀ c ∈ cs, Text.isBlank c = false := by
  cases h with
  | plain h => exact h.not_blank
  | grouped h => exact h.not_blank
  | braced h =>
    simp only [List.forall_mem_cons, List.forall_mem_append]
    exact ⟨by decide, h.not_blank, by decide, List.forall_mem_nil _⟩
  | named hmark h => exact List.forall_mem_append.mpr ⟨hmark.not_blank, h.not_blank⟩

end OutboxProvisioning.Uuid

namespace OutboxProvisioning.Text

variable {cs before behind : List Char}

theorem dropWhile_blank (hbefore : ∀ c ∈ before, isBlank c = true)
    (h : ∀ c ∈ cs, isBlank c = false) (hbehind : ∀ c ∈ behind, isBlank c = true) :
    (before ++ (cs ++ behind)).dropWhile isBlank = if cs = [] then [] else cs ++ behind := by
  rw [List.dropWhile_append_of_pos hbefore]
  cases cs with
  | nil => exact List.dropWhile_eq_nil_iff.mpr hbehind
  | cons c cs =>
    have hc : isBlank c = false := h c List.mem_cons_self
    simp [hc]

/-- White space around a text without any goes. -/
theorem trimChars_padded (hbefore : ∀ c ∈ before, isBlank c = true)
    (h : ∀ c ∈ cs, isBlank c = false) (hbehind : ∀ c ∈ behind, isBlank c = true) :
    trimChars (before ++ (cs ++ behind)) = cs := by
  rw [trimChars, dropWhile_blank hbefore h hbehind]
  split
  · next hcs => rw [hcs]; rfl
  · next hcs =>
    -- the same from the other end
    have hreverse : (behind.reverse ++ (cs.reverse ++ [])).dropWhile isBlank =
        if cs.reverse = [] then [] else cs.reverse ++ [] :=
      dropWhile_blank (by simpa using hbehind) (by simpa using h) (by simp)
    rw [List.append_nil, ← List.reverse_append] at hreverse
    rw [dropEnd, hreverse, if_neg (by simpa using hcs), List.reverse_reverse]

end OutboxProvisioning.Text
