import Mathlib.Data.String.Basic
import OutboxProvisioning.Proofs.Utf8

/-!
# Texts in the order of their octets

The octets of a character with a larger number come later, whatever follows them. So texts are in
the same order as their octets.

* `Sequence.head_eq`, `lead_mono`: the first octet grows with the number.
* `Sequence.tail_lt`: behind the same first octet, the octets of the larger number come later.
* `encode_lt_iff`: **one text comes before another exactly when its octets do.**
-/

namespace OutboxProvisioning.Utf8

variable {n m : Nat} {a b : UInt8} {s t : Bytes} {c d : Char} {cs ds : List Char}

/-- The number of the first octet of a character. -/
def lead (n : Nat) : Nat :=
  if n < 0x80 then n
  else if n < 0x800 then 0xC0 + n / 64
  else if n < 0x10000 then 0xE0 + n / 4096
  else 0xF0 + n / 262144

theorem lead_mono (h : n ≤ m) : lead n ≤ lead m := by
  unfold lead
  repeat' split
  all_goals omega

theorem low_lt (b : UInt8) : low b < 64 := Nat.mod_lt _ (by decide)

theorem cons_lt_cons (h : a.toNat < b.toNat ∨ a.toNat = b.toNat ∧ s < t) : a :: s < b :: t := by
  rw [List.cons_lt_cons_iff, UInt8.lt_iff_toNat_lt, octet_eq_iff]
  exact h

theorem low_of_continuation (h : 0x80 ≤ b.toNat ∧ b.toNat ≤ 0xBF) : b.toNat = 0x80 + low b := by
  unfold low
  omega

/-- Continuation octets are in the order of their low bits. -/
theorem continued_lt (ha : 0x80 ≤ a.toNat ∧ a.toNat ≤ 0xBF) (hb : 0x80 ≤ b.toNat ∧ b.toNat ≤ 0xBF)
    (h : low a < low b ∨ low a = low b ∧ s < t) : a :: s < b :: t := by
  have ha := low_of_continuation ha
  have hb := low_of_continuation hb
  exact cons_lt_cons (h.imp (fun h => by omega) (And.imp_left fun h => by omega))

namespace Sequence

theorem exists_cons (h : Sequence n s) : ∃ a t, s = a :: t := by
  cases h <;> exact ⟨_, _, rfl⟩

/-- The number of a character decides the first octet. -/
theorem head_eq (h : Sequence n (a :: s)) : a.toNat = lead n := by
  unfold lead
  cases h with
  | one ha hn => rw [if_pos (by omega), hn]
  | @two _ b ha ha' hb hn =>
    have := low_lt b
    rw [if_neg (by omega), if_pos (by omega)]
    omega
  | @three _ b c ha ha' hb hc hn =>
    -- no number has more octets than it needs, by what the second octet may be
    have hb := secondOfThree_iff.mp hb
    have hlow := low_of_continuation ⟨hb.1, hb.2.1⟩
    have := low_lt b
    have := low_lt c
    rw [if_neg (by omega), if_neg (by omega), if_pos (by omega)]
    omega
  | @four _ b c d ha ha' hb hc hd hn =>
    have hb := secondOfFour_iff.mp hb
    have hlow := low_of_continuation ⟨hb.1, hb.2.1⟩
    have := low_lt b
    have := low_lt c
    have := low_lt d
    rw [if_neg (by omega), if_neg (by omega), if_neg (by omega)]
    omega

/-- Behind the same first octet, the octets of the larger number come later. -/
theorem tail_lt (h : Sequence n (a :: s)) (h' : Sequence m (a :: t)) (hlt : n < m) (r r' : Bytes) :
    s ++ r < t ++ r' := by
  -- the first octet says how many follow, so both are of one row
  cases h with
  | one ha hn => cases h' <;> omega
  | @two _ b ha ha' hb hn =>
    have hb := isContinuation_iff.mp hb
    cases h' with
    | two _ _ hb' hm => exact continued_lt hb (isContinuation_iff.mp hb') (.inl (by omega))
    | _ => omega
  | @three _ b c ha ha' hb hc hn =>
    have hb := secondOfThree_iff.mp hb
    have hc := isContinuation_iff.mp hc
    cases h' with
    | @three _ b' c' _ _ hb' hc' hm =>
      have hb' := secondOfThree_iff.mp hb'
      have := low_lt c
      have := low_lt c'
      have horder : low b < low b' ∨ low b = low b' ∧ low c < low c' := by omega
      refine continued_lt ⟨hb.1, hb.2.1⟩ ⟨hb'.1, hb'.2.1⟩ (horder.imp_right (And.imp_right ?_))
      exact fun h => continued_lt hc (isContinuation_iff.mp hc') (.inl h)
    | _ => omega
  | @four _ b c d ha ha' hb hc hd hn =>
    have hb := secondOfFour_iff.mp hb
    have hc := isContinuation_iff.mp hc
    have hd := isContinuation_iff.mp hd
    cases h' with
    | @four _ b' c' d' _ _ hb' hc' hd' hm =>
      have hb' := secondOfFour_iff.mp hb'
      have := low_lt c
      have := low_lt c'
      have := low_lt d
      have := low_lt d'
      have horder : low b < low b' ∨ low b = low b' ∧
          (low c < low c' ∨ low c = low c' ∧ low d < low d') := by omega
      refine continued_lt ⟨hb.1, hb.2.1⟩ ⟨hb'.1, hb'.2.1⟩ (horder.imp_right (And.imp_right ?_))
      intro horder
      refine continued_lt hc (isContinuation_iff.mp hc') (horder.imp_right (And.imp_right ?_))
      exact fun h => continued_lt hd (isContinuation_iff.mp hd') (.inl h)
    | _ => omega

/-- **The octets of the larger number come later**, whatever follows. -/
theorem append_lt (h : Sequence n s) (h' : Sequence m t) (hlt : n < m) (r r' : Bytes) :
    s ++ r < t ++ r' := by
  obtain ⟨a, s, rfl⟩ := h.exists_cons
  obtain ⟨b, t, rfl⟩ := h'.exists_cons
  have hle := lead_mono (Nat.le_of_lt hlt)
  rw [← h.head_eq, ← h'.head_eq] at hle
  rcases Nat.lt_or_eq_of_le hle with hlead | hlead
  · exact cons_lt_cons (.inl hlead)
  · obtain rfl := octet_eq_iff.mpr hlead
    exact cons_lt_cons (.inr ⟨rfl, h.tail_lt h' hlt r r'⟩)

end Sequence

/-- Characters before others are written with octets before theirs. -/
theorem encodeChars_lt (h : cs < ds) : encodeChars cs < encodeChars ds := by
  induction List.lex_lt.mpr h with
  | @nil d ds =>
    obtain ⟨a, t, ht⟩ := (Sequence.encode d).exists_cons
    rw [encodeChars_cons, ht]
    exact List.nil_lt_cons _ _
  | @rel c cs d ds hcd =>
    rw [encodeChars_cons, encodeChars_cons]
    exact (Sequence.encode c).append_lt (Sequence.encode d) hcd _ _
  | @cons c cs ds hlex ih =>
    rw [encodeChars_cons, encodeChars_cons]
    exact List.append_left_lt (ih (List.lex_lt.mp hlex))

/-- **One text comes before another exactly when its octets do.** -/
theorem encode_lt_iff {s t : String} : encode s < encode t ↔ s < t := by
  have hlt : ∀ {s t : String}, s < t → encode s < encode t :=
    fun h => encodeChars_lt (String.lt_iff_toList_lt.mp h)
  refine ⟨fun h => ?_, hlt⟩
  rcases lt_trichotomy s t with hst | rfl | hts
  · exact hst
  · exact absurd h (List.lt_irrefl _)
  · exact absurd h (List.lt_asymm (hlt hts))

theorem encode_le_iff {s t : String} : encode s ≤ encode t ↔ s ≤ t := by
  rw [← List.not_lt, encode_lt_iff, not_lt]

end OutboxProvisioning.Utf8
