import OutboxProvisioning.Json.Skip
import OutboxProvisioning.Proofs.Json.Number

/-!
# Values, skipped

Skipping a value takes exactly the octets of one, however deep it is nested. The arrays and
objects that are open on the stack say what has to follow.

* `IsValue.skipped`: a value is skipped, and the open frames go on behind it.
* `skipValue_value`, `value_of_skip`: whole values.
-/

namespace OutboxProvisioning.Json

variable {b : UInt8} {f : Frame} {fs : List Frame} {o : Option (List Frame)} {parts : List Bytes}
  {P Q : Bytes → Prop} {k p q r s v w part : Bytes}

/-! ## Arrays and objects as frames -/

/-- The bracket that opens it. -/
def Frame.opening : Frame → UInt8
  | .list => openList
  | .object => openObject

/-- What stands before a value: nothing in an array, a name and a colon in an object. -/
inductive IsKey : Frame → Bytes → Prop
  | list : IsKey .list []
  | object {w raw w' : Bytes} : Blank w → IsRaw raw → Blank w' →
      IsKey .object (w ++ (inQuotes raw ++ (w' ++ [colon])))

/-- What stands between two commas; its value is a `P`. -/
inductive Part (P : Bytes → Prop) (f : Frame) : Bytes → Prop
  | value {k : Bytes} {p : Padded} : IsKey f k → p.Spaced → P p.value → Part P f (k ++ p.octets)

/-- A value made of these parts. -/
def Frame.octets (f : Frame) (w : Bytes) (parts : List Bytes) : Bytes :=
  f.opening :: (w ++ (separated parts ++ [f.close]))

/-- The parts behind the first, each after a comma, and what follows the bracket. -/
def Frame.tail (f : Frame) (parts : List Bytes) (r : Bytes) : Bytes :=
  parts.flatMap (comma :: ·) ++ f.close :: r

theorem Frame.octets_nil (f : Frame) (w r : Bytes) :
    f.octets w [] ++ r = f.opening :: (w ++ f.close :: r) := by
  simp [Frame.octets, separated]

theorem Frame.octets_cons (f : Frame) (w part r : Bytes) (parts : List Bytes) :
    f.octets w (part :: parts) ++ r = f.opening :: (w ++ (part ++ f.tail parts r)) := by
  simp [Frame.octets, separated, Frame.tail]

theorem Frame.tail_cons (f : Frame) (part r : Bytes) (parts : List Bytes) :
    f.tail (part :: parts) r = comma :: (part ++ f.tail parts r) := by
  simp [Frame.tail]

theorem Padded.octets_append (p : Padded) (r : Bytes) :
    p.octets ++ r = p.before ++ (p.value ++ (p.after ++ r)) := by
  simp [Padded.octets]

theorem isSpace_close (f : Frame) : isSpace f.close = false := by
  cases f <;> decide

theorem close_ne_comma (f : Frame) : f.close ≠ comma := by
  cases f <;> decide

/-- A number may stand before the rest of an array or an object. -/
theorem ends_tail (hw : Blank w) (f : Frame) (parts : List Bytes) (r : Bytes) :
    Ends (w ++ f.tail parts r) := by
  apply Ends.blank hw
  cases parts with
  | nil => cases f <;> exact Ends.cons (by decide) r
  | cons part parts =>
    rw [Frame.tail_cons]
    exact Ends.comma _

theorem listOctets_eq (w : Bytes) (items : List Padded) :
    listOctets w items = Frame.list.octets w (items.map Padded.octets) := rfl

theorem objectOctets_eq (w : Bytes) (entries : List Entry) :
    objectOctets w entries = Frame.object.octets w (entries.map Entry.octets) := rfl

theorem part_of_item {i : Padded} (hs : i.Spaced) (hv : P i.value) : Part P .list i.octets :=
  .value .list hs hv

theorem part_of_entry {e : Entry} (hs : e.Spaced) (hn : IsRaw e.name) (hv : P e.content.value) :
    Part P .object e.octets := by
  obtain ⟨hbefore, hbetween, hcontent⟩ := hs
  have he : e.octets = (e.before ++ (inQuotes e.name ++ (e.between ++ [colon]))) ++
      e.content.octets := by
    simp [Entry.octets]
  rw [he]
  exact .value (.object hbefore hn hbetween) hcontent hv

theorem item_of_part (h : Part P .list part) :
    ∃ i : Padded, part = i.octets ∧ i.Spaced ∧ P i.value := by
  cases h with
  | value hk hs hv =>
    cases hk
    exact ⟨_, rfl, hs, hv⟩

theorem entry_of_part (h : Part P .object part) :
    ∃ e : Entry, part = e.octets ∧ e.Spaced ∧ IsRaw e.name ∧ P e.content.value := by
  cases h with
  | @value _ content hk hs hv =>
    cases hk with
    | @object before name between hbefore hname hbetween =>
      refine ⟨⟨before, name, between, content⟩, ?_, ⟨hbefore, hbetween, hs⟩, hname, hv⟩
      simp [Entry.octets]

/-- If each part is something, the parts are the list of these things. -/
theorem exists_map {α β : Type} {g : α → β} {P : α → Prop} {l : List β}
    (h : ∀ b ∈ l, ∃ a, b = g a ∧ P a) : ∃ as : List α, l = as.map g ∧ ∀ a ∈ as, P a := by
  induction l with
  | nil => exact ⟨[], rfl, by simp⟩
  | cons b l ih =>
    obtain ⟨a, rfl, ha⟩ := h b List.mem_cons_self
    obtain ⟨as, rfl, has⟩ := ih fun b hb => h b (List.mem_cons_of_mem _ hb)
    refine ⟨a :: as, rfl, fun x hx => ?_⟩
    rcases List.mem_cons.mp hx with rfl | hx
    · exact ha
    · exact has x hx

/-- Arrays and objects of values are values. -/
theorem IsValue.frame (hw : Blank w) (h : ∀ part ∈ parts, Part IsValue f part) :
    IsValue (f.octets w parts) := by
  cases f with
  | list =>
    obtain ⟨items, rfl, hitems⟩ := exists_map fun part hp => item_of_part (h part hp)
    rw [← listOctets_eq]
    exact .list hw (fun i hi => (hitems i hi).1) (fun i hi => (hitems i hi).2)
  | object =>
    obtain ⟨entries, rfl, hentries⟩ := exists_map fun part hp => entry_of_part (h part hp)
    rw [← objectOctets_eq]
    exact .object hw (fun e he => (hentries e he).1) (fun e he => (hentries e he).2.1)
      (fun e he => (hentries e he).2.2)

/-! ## A value is skipped -/

/-- Goes on after the end of a value. -/
def resume : Except Fault (Option (List Frame) × Bytes) → Except Fault Bytes
  | .error fault => .error fault
  | .ok (none, r) => .ok r
  | .ok (some fs, r) => skipFrom fs r

theorem skipFrom_eq (fs : List Frame) (s : Bytes) : skipFrom fs s = resume (skipRound fs s) := by
  rw [skipFrom]
  split <;> simp_all [resume]

/-- A value is skipped inside whatever is open, and what is open goes on behind it. -/
structure Skipped (v : Bytes) : Prop where
  head : ∃ b s, v = b :: s ∧ isSpace b = false ∧ b ≠ closeList
  skip : ∀ fs w r, Blank w → Ends r → skipFrom fs (w ++ (v ++ r)) = resume (skipEnds fs r)

theorem scanWord_append (word r : Bytes) : scanWord word (word ++ r) = .ok r := by
  induction word with
  | nil => rfl
  | cons c word ih => rw [List.cons_append, scanWord, if_pos rfl, ih]

theorem skipped_scalar (hspace : isSpace b = false) (hlist : b ≠ openList)
    (hobject : b ≠ openObject) (hclose : b ≠ closeList) (h : ∀ r, Ends r → skipScalar b (s ++ r) = .ok r) :
    Skipped (b :: s) where
  head := ⟨b, s, rfl, hspace, hclose⟩
  skip fs w r hw hr := by
    rw [skipFrom_eq, skipRound, skipSpace_blank hw, List.cons_append, skipSpace_cons hspace]
    simp only [if_neg hlist, if_neg hobject, h r hr]

theorem isDigit_iff : isDigit b = true ↔ 0x30 ≤ b.toNat ∧ b.toNat ≤ 0x39 := by
  simp [isDigit, UInt8.le_iff_toNat_le]

theorem IsNumber.skipped (h : IsNumber v) : Skipped v := by
  obtain ⟨b, s, rfl, hb⟩ := h.head
  -- the octet a number begins with begins no other value
  have hne : ∀ c : UInt8, c.toNat ≠ 0x2D → c.toNat < 0x30 ∨ 0x39 < c.toNat → b ≠ c := by
    rintro c hc hrange rfl
    rw [Bool.or_eq_true, decide_eq_true_eq, isDigit_iff] at hb
    rcases hb with rfl | hb
    · exact hc rfl
    · omega
  have hspace : isSpace b = false := by
    rw [Bool.eq_false_iff]
    intro hb
    rcases isSpace_iff.mp hb with hb | hb | hb | hb <;>
      exact absurd hb (hne _ (by decide) (by decide))
  refine skipped_scalar hspace (hne _ (by decide) (by decide)) (hne _ (by decide) (by decide))
    (hne _ (by decide) (by decide)) fun r hr => ?_
  obtain ⟨n, hn⟩ := scanSigned_number .badNumber h hr
  rw [skipScalar, if_neg (hne _ (by decide) (by decide)), if_neg (hne _ (by decide) (by decide)),
    if_neg (hne _ (by decide) (by decide)), if_neg (hne _ (by decide) (by decide)), if_pos hb]
  rw [List.cons_append] at hn
  rw [hn]
  rfl

theorem inQuotes_append (raw r : Bytes) : inQuotes raw ++ r = quote :: (raw ++ quote :: r) := by
  simp [inQuotes]

theorem skipKey_key (h : IsKey f k) (s : Bytes) : skipKey f (k ++ s) = .ok s := by
  cases h with
  | list => rfl
  | @object w raw w' hw hraw hw' =>
    have hk : (w ++ (inQuotes raw ++ (w' ++ [colon]))) ++ s =
        w ++ quote :: (raw ++ quote :: (w' ++ colon :: s)) := by
      simp [inQuotes]
    rw [hk, skipKey, skipSpace_blank hw, skipSpace_cons (by decide)]
    simp only [if_true, skipText_raw hraw, skipSpace_blank hw']
    rw [skipSpace_cons (by decide)]
    rfl

/-- The first part of an array or an object. -/
theorem skipKey_first (hk : IsKey f k) {p : Padded} (hs : p.Spaced) (hv : Skipped p.value)
    (r : Bytes) : ∃ b s w, skipSpace (k ++ (p.octets ++ r)) = b :: s ∧ b ≠ f.close ∧ Blank w ∧
      skipKey f (b :: s) = .ok (w ++ (p.value ++ (p.after ++ r))) := by
  -- in an array the value itself comes first, in an object the quote of its name
  cases hk with
  | list =>
    obtain ⟨b, s, hb, hspace, hclose⟩ := hv.head
    refine ⟨b, s ++ (p.after ++ r), [], ?_, hclose, .nil, ?_⟩
    · rw [List.nil_append, p.octets_append, skipSpace_blank hs.1, hb, List.cons_append,
        skipSpace_cons hspace]
    · rw [hb]
      rfl
  | @object w raw w' hw hraw hw' =>
    have hname := skipKey_key (.object .nil hraw hw') (p.octets ++ r)
    have hb : w ++ (inQuotes raw ++ (w' ++ [colon])) ++ (p.octets ++ r) =
        w ++ quote :: (raw ++ quote :: (w' ++ colon :: (p.octets ++ r))) := by
      simp [inQuotes]
    refine ⟨quote, raw ++ quote :: (w' ++ colon :: (p.octets ++ r)), p.before, ?_, by decide,
      hs.1, ?_⟩
    · rw [hb, skipSpace_blank hw, skipSpace_cons (by decide)]
    · rw [← p.octets_append, ← hname]
      simp [inQuotes]

/-- The rest of an array or an object is skipped with the brackets around it still open. -/
theorem resume_tail (hparts : ∀ part ∈ parts, Part Skipped f part) (hw : Blank w) (r : Bytes) :
    resume (skipEnds (f :: fs) (w ++ f.tail parts r)) = resume (skipEnds fs r) := by
  -- `w` changes on the way: it is the white space behind the part that came last
  induction parts generalizing w with
  | nil =>
    have htail : f.tail [] r = f.close :: r := rfl
    rw [htail, skipEnds, skipSpace_blank hw, skipSpace_cons (isSpace_close f)]
    simp only [if_neg (close_ne_comma f), if_true]
  | cons part parts ih =>
    have ih := fun {w : Bytes} (hw : Blank w) =>
      ih (w := w) (fun part hp => hparts part (List.mem_cons_of_mem _ hp)) hw
    cases hparts part List.mem_cons_self with
    | @value k p hk hs hv =>
      rw [f.tail_cons, skipEnds, skipSpace_blank hw, skipSpace_cons (by decide)]
      simp only [if_true, List.append_assoc, skipKey_key hk, Except.map, resume]
      rw [p.octets_append, hv.skip _ _ _ hs.1 (ends_tail hs.2 _ _ _)]
      exact ih hs.2

theorem opening_cases (f : Frame) (fs : List Frame) (s : Bytes) :
    skipRound fs (f.opening :: s) = skipOpened f fs s := by
  cases f with
  | list =>
    rw [Frame.opening, skipRound, skipSpace_cons (by decide)]
    simp only [if_true]
  | object =>
    rw [Frame.opening, skipRound, skipSpace_cons (by decide)]
    simp only [if_neg (show openObject ≠ openList by decide), if_true]

theorem skipRound_blank (hw : Blank w) (fs : List Frame) (s : Bytes) :
    skipRound fs (w ++ s) = skipRound fs s := by
  rw [skipRound, skipRound, skipSpace_blank hw]

/-- Arrays and objects are skipped if what they hold is. -/
theorem skipped_frame (hw : Blank w) (hparts : ∀ part ∈ parts, Part Skipped f part) :
    Skipped (f.octets w parts) where
  head := by cases f <;> exact ⟨_, _, rfl, by decide, by decide⟩
  skip fs w' r hw' hr := by
    rw [skipFrom_eq, skipRound_blank hw']
    cases parts with
    | nil =>
      rw [f.octets_nil, opening_cases, skipOpened, skipSpace_blank hw,
        skipSpace_cons (isSpace_close f)]
      simp only [if_true]
    | cons part parts =>
      have hrest := fun part hp => hparts part (List.mem_cons_of_mem _ hp)
      cases hparts part List.mem_cons_self with
      | @value k p hk hs hv =>
        obtain ⟨b, s, w0, hb, hclose, hw0, hkey⟩ := skipKey_first hk hs hv (f.tail parts r)
        rw [f.octets_cons, opening_cases, skipOpened, skipSpace_blank hw, List.append_assoc, hb]
        simp only [if_neg hclose, hkey, Except.map, resume]
        rw [hv.skip _ _ _ hw0 (ends_tail hs.2 _ _ _)]
        exact resume_tail hrest hs.2 r

/-- **Every value is skipped**, inside whatever is open. -/
theorem IsValue.skipped (h : IsValue v) : Skipped v := by
  -- what is open around the value is part of `Skipped`, so it holds for the parts at any depth
  induction h with
  | null =>
    exact skipped_scalar (by decide) (by decide) (by decide) (by decide) fun r _ =>
      scanWord_append _ r
  | true =>
    exact skipped_scalar (by decide) (by decide) (by decide) (by decide) fun r _ =>
      scanWord_append _ r
  | false =>
    exact skipped_scalar (by decide) (by decide) (by decide) (by decide) fun r _ =>
      scanWord_append _ r
  | number hn => exact hn.skipped
  | text hraw =>
    refine skipped_scalar (by decide) (by decide) (by decide) (by decide) fun r _ => ?_
    rw [List.append_assoc]
    exact skipText_raw hraw r
  | list hw hs _ ih =>
    rw [listOctets_eq]
    refine skipped_frame hw fun part hp => ?_
    obtain ⟨i, hi, rfl⟩ := List.mem_map.mp hp
    exact part_of_item (hs i hi) (ih i hi)
  | object hw hs hn _ ih =>
    rw [objectOctets_eq]
    refine skipped_frame hw fun part hp => ?_
    obtain ⟨e, he, rfl⟩ := List.mem_map.mp hp
    exact part_of_entry (hs e he) (hn e he) (ih e he)

/-- **A whole value is skipped**, and nothing behind it. -/
theorem skipValue_value (h : IsValue v) (hw : Blank w) (hr : Ends r) :
    skipValue (w ++ (v ++ r)) = .ok r := by
  rw [skipValue, h.skipped.skip [] w r hw hr]
  rfl

/-! ## What is skipped is a value -/

/-- What closes the open frames, from the end of a value on. -/
inductive Closes : List Frame → Bytes → Prop
  | nothing : Closes [] []
  | frame {f : Frame} {fs : List Frame} {w q : Bytes} {parts : List Bytes} : Blank w →
      (∀ part ∈ parts, Part IsValue f part) → Closes fs q →
      Closes (f :: fs) (w ++ f.tail parts q)

/-- What the open frames hold from the start of a value on. -/
inductive Fills : List Frame → Bytes → Prop
  | value {fs : List Frame} {w v q : Bytes} : Blank w → IsValue v → Closes fs q →
      Fills fs (w ++ (v ++ q))

/-- What has still to come: nothing when all is closed. -/
def Due : Option (List Frame) → Bytes → Prop
  | none, p => p = []
  | some fs, p => Fills fs p

theorem key_of_skip (h : skipKey f s = .ok r) : ∃ k, IsKey f k ∧ s = k ++ r := by
  cases f with
  | list =>
    cases h
    exact ⟨[], .list, rfl⟩
  | object =>
    obtain ⟨w, hw, hs⟩ := blank_of_skipSpace s
    unfold skipKey at h
    dsimp only at h
    split at h
    · cases h
    · next b r' hb =>
      split at h
      · next hq =>
        split at h
        · cases h
        · next r0 ht =>
          obtain ⟨raw, hraw, hr'⟩ := raw_of_skipText ht
          obtain ⟨w', hw', hr0⟩ := blank_of_skipSpace r0
          split at h
          · cases h
          · next c rest hc =>
            split at h
            · next hcolon =>
              cases h
              refine ⟨_, .object hw hraw hw', ?_⟩
              rw [hs, hb, hq, hr', hr0, hc, hcolon]
              simp [inQuotes]
            · cases h
      · cases h

/-- What fills an open frame behind a key is a part with it, and the rest of the frame. -/
theorem parts_of_fills (hk : IsKey f k) (h : Fills (f :: fs) p) :
    ∃ part parts q, (∀ part' ∈ part :: parts, Part IsValue f part') ∧ Closes fs q ∧
      k ++ p = part ++ f.tail parts q := by
  cases h with
  | @value w v q hw hv hclose =>
    cases hclose with
    | @frame _ _ w' q' parts hw' hparts hq' =>
      have hpart : Part IsValue f (k ++ (Padded.mk w v w').octets) := .value hk ⟨hw, hw'⟩ hv
      refine ⟨_, parts, q', List.forall_mem_cons.mpr ⟨hpart, hparts⟩, hq', ?_⟩
      simp [Padded.octets]

/-- What is taken at the ends closes frames, with what is due. -/
theorem closes_of_skip (h : skipEnds fs s = .ok (o, r)) :
    ∃ q, s = q ++ r ∧ ∀ p, Due o p → Closes fs (q ++ p) := by
  fun_induction skipEnds fs s with
  | case1 s =>
    -- no frame is open, and nothing is due
    cases h
    refine ⟨[], rfl, ?_⟩
    rintro p rfl
    exact .nothing
  | case2 => cases h
  | case3 f fs s r0 hb =>
    obtain ⟨w, hw, hs⟩ := blank_of_skipSpace s
    cases hkey : skipKey f r0 with
    | error e =>
      rw [hkey] at h
      cases h
    | ok r1 =>
      rw [hkey] at h
      cases h
      obtain ⟨k, hk, rfl⟩ := key_of_skip hkey
      -- the value that is due becomes a part, before those of the rest
      refine ⟨w ++ comma :: k, by rw [hs, hb]; simp, fun p hp => ?_⟩
      obtain ⟨part, parts, q, hparts, hq, hkp⟩ := parts_of_fills hk hp
      rw [List.append_assoc, List.cons_append, hkp, ← f.tail_cons]
      exact .frame hw hparts hq
  | case4 f fs s r0 hb hne ih =>
    obtain ⟨w, hw, hs⟩ := blank_of_skipSpace s
    obtain ⟨q, rfl, hq⟩ := ih h
    refine ⟨w ++ f.close :: q, by rw [hs, hb]; simp, fun p hp => ?_⟩
    have : Closes (f :: fs) (w ++ f.tail [] (q ++ p)) := .frame hw (by simp) (hq p hp)
    simpa [Frame.tail] using this
  | case5 => cases h

/-- A frame that has just been opened is a value when it is closed. -/
theorem value_of_opened (h : skipOpened f fs s = .ok (o, r)) :
    ∃ q, s = q ++ r ∧ ∀ p, Due o p → ∃ v q', IsValue v ∧ Closes fs q' ∧
      f.opening :: (q ++ p) = v ++ q' := by
  obtain ⟨w, hw, hs⟩ := blank_of_skipSpace s
  unfold skipOpened at h
  split at h
  · cases h
  · next b r0 hb =>
    split at h
    · next hclose =>
      obtain ⟨q, rfl, hq⟩ := closes_of_skip h
      refine ⟨w ++ f.close :: q, by rw [hs, hb, hclose]; simp, fun p hp => ?_⟩
      have hv : IsValue (f.octets w []) := .frame hw (by simp)
      exact ⟨_, _, hv, hq p hp, by rw [f.octets_nil]; simp⟩
    · cases hkey : skipKey f (b :: r0) with
      | error e =>
        rw [hkey] at h
        cases h
      | ok r1 =>
        rw [hkey] at h
        cases h
        obtain ⟨k, hk, hr0⟩ := key_of_skip hkey
        refine ⟨w ++ k, by rw [hs, hb, hr0]; simp, fun p hp => ?_⟩
        obtain ⟨part, parts, q, hparts, hq, hkp⟩ := parts_of_fills hk hp
        refine ⟨_, q, .frame hw hparts, hq, ?_⟩
        rw [List.append_assoc, hkp, f.octets_cons]

theorem word_of_scan {word : Bytes} (h : scanWord word s = .ok r) : s = word ++ r := by
  fun_induction scanWord word s with
  | case1 => cases h; rfl
  | case2 => cases h
  | case3 =>
    rename_i ih
    rw [ih h]
    rfl
  | case4 => cases h

theorem value_of_scalar (h : skipScalar b s = .ok r) : ∃ v, IsValue v ∧ b :: s = v ++ r := by
  unfold skipScalar at h
  split at h
  · next hb => exact ⟨nullWord, .null, by rw [hb, word_of_scan h]; rfl⟩
  · split at h
    · next hb => exact ⟨trueWord, .true, by rw [hb, word_of_scan h]; rfl⟩
    · split at h
      · next hb => exact ⟨falseWord, .false, by rw [hb, word_of_scan h]; rfl⟩
      · split at h
        · next hb =>
          obtain ⟨raw, hraw, rfl⟩ := raw_of_skipText h
          exact ⟨_, .text hraw, by rw [hb, inQuotes_append]⟩
        · split at h
          · cases hn : scanSigned .badNumber (b :: s) with
            | error e =>
              rw [hn] at h
              cases h
            | ok n =>
              rw [hn] at h
              cases h
              obtain ⟨v, hv, hs⟩ := number_of_scanSigned hn
              exact ⟨v, .number hv, hs⟩
          · cases h

theorem fills_of_round (h : skipRound fs s = .ok (o, r)) :
    ∃ q, s = q ++ r ∧ ∀ p, Due o p → Fills fs (q ++ p) := by
  obtain ⟨w, hw, hs⟩ := blank_of_skipSpace s
  -- a bracket that opens, of either kind
  have opened : ∀ {f : Frame} {r0 : Bytes}, skipSpace s = f.opening :: r0 →
      skipOpened f fs r0 = .ok (o, r) →
      ∃ q, s = q ++ r ∧ ∀ p, Due o p → Fills fs (q ++ p) := by
    intro f r0 hb h
    obtain ⟨q, rfl, hq⟩ := value_of_opened h
    refine ⟨w ++ f.opening :: q, by rw [hs, hb]; simp, fun p hp => ?_⟩
    obtain ⟨v, q', hv, hq', hvq⟩ := hq p hp
    rw [List.append_assoc, List.cons_append, hvq]
    exact .value hw hv hq'
  unfold skipRound at h
  split at h
  · cases h
  · next b r0 hb =>
    split at h
    · next hlist => exact opened (f := .list) (by rw [hb, hlist]; rfl) h
    · split at h
      · next hobject => exact opened (f := .object) (by rw [hb, hobject]; rfl) h
      · split at h
        · cases h
        · next r1 hscalar =>
          obtain ⟨v, hv, hr0⟩ := value_of_scalar hscalar
          obtain ⟨q, rfl, hq⟩ := closes_of_skip h
          refine ⟨w ++ (v ++ q), by rw [hs, hb, hr0]; simp, fun p hp => ?_⟩
          rw [List.append_assoc, List.append_assoc]
          exact .value hw hv (hq p hp)

/-- **What is skipped fills the frames that are open.** -/
theorem fills_of_skip (h : skipFrom fs s = .ok r) : ∃ p, s = p ++ r ∧ Fills fs p := by
  fun_induction skipFrom fs s with
  | case1 => cases h
  | case2 fs s r0 hr =>
    -- the last round: nothing is due behind it
    cases h
    obtain ⟨q, rfl, hq⟩ := fills_of_round hr
    have := hq [] rfl
    rw [List.append_nil] at this
    exact ⟨q, rfl, this⟩
  | case3 fs s fs' r0 hr _ ih =>
    obtain ⟨p, rfl, hp⟩ := ih h
    obtain ⟨q, rfl, hq⟩ := fills_of_round hr
    exact ⟨q ++ p, by rw [List.append_assoc], hq p hp⟩

/-- **What is skipped is a value**, after white space. -/
theorem value_of_skip (h : skipValue s = .ok r) :
    ∃ w v, Blank w ∧ IsValue v ∧ s = w ++ (v ++ r) := by
  obtain ⟨p, rfl, hp⟩ := fills_of_skip h
  cases hp with
  | value hw hv hclose =>
    cases hclose
    exact ⟨_, _, hw, hv, by simp⟩

end OutboxProvisioning.Json
