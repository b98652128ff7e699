import OutboxProvisioning.Json.Reader
import OutboxProvisioning.Proofs.Json.Skip

/-!
# Readers and the values they read

A reader takes a value if it reads the octets of the value wherever they stand, and nothing
behind them; it refuses a value if it fails there. An exact reader reads nothing else.

* `Reader.Takes`, `Reader.Refuses`, `Reader.Exact`.
* `Takes.parse`, `Refuses.parse`, `Exact.text`: whole texts.
* `text_takes`, `orNull_takes`, `boolean_takes`, `variant_takes`, `list_takes`: what the readers
  of each type take.
-/

namespace OutboxProvisioning.Json

variable {α β : Type} {a : α} {b c : UInt8} {fault : Fault} {first : Bool} {parts : List Bytes}
  {ds r raw s v w : Bytes} {p : Reader α} {t : String}

namespace Reader

/-- The reader gives `a` for the value, whatever white space comes before and whatever ends it. -/
def Takes (p : Reader α) (v : Bytes) (a : α) : Prop :=
  ∀ w r, Blank w → Ends r → p.run (w ++ (v ++ r)) = .ok (a, r)

/-- The reader fails at the value. -/
def Refuses (p : Reader α) (v : Bytes) : Prop :=
  ∀ w r, Blank w → Ends r → ∃ fault, p.run (w ++ (v ++ r)) = .error fault

/-- The reader takes the values that are related to something by `R`, and nothing else. -/
structure Exact (p : Reader α) (R : Bytes → α → Prop) : Prop where
  value : ∀ v a, R v a → IsValue v
  takes : ∀ v a, R v a → p.Takes v a
  sound : ∀ s a r, p.run s = .ok (a, r) → ∃ w v, Blank w ∧ R v a ∧ s = w ++ (v ++ r)

theorem Takes.unique {a' : α} (h : p.Takes v a) (h' : p.Takes v a') : a = a' := by
  have h1 := h [] [] .nil .nil
  rw [h' [] [] .nil .nil] at h1
  simp only [Except.ok.injEq, Prod.mk.injEq, and_true] at h1
  exact h1.symm

theorem Refuses.not_takes (h : p.Refuses v) : ¬ p.Takes v a := by
  intro ht
  obtain ⟨fault, hf⟩ := h [] [] .nil .nil
  rw [ht [] [] .nil .nil] at hf
  cases hf

/-! ## Changed readers and whole texts -/

theorem Takes.map (h : p.Takes v a) (f : α → β) : (p.map f).Takes v (f a) := by
  intro w r hw hr
  simp only [Reader.map, h w r hw hr]

theorem Refuses.map (h : p.Refuses v) (f : α → β) : (p.map f).Refuses v := by
  intro w r hw hr
  obtain ⟨fault, hf⟩ := h w r hw hr
  exact ⟨fault, by simp only [Reader.map, hf]⟩

/-- A whole text is read as its value. -/
theorem Takes.parse (h : p.Takes v a) (ht : IsText v s) : p.parse s = .ok a := by
  cases ht with
  | @padded w w' hw hw' =>
    simp only [Reader.parse, Reader.readAll, h w w' hw hw'.ends, hw'.skipSpace]
    rfl

/-- A whole text is refused with its value. -/
theorem Refuses.parse (h : p.Refuses v) (ht : IsText v s) :
    ∃ reason, p.parse s = .error reason := by
  cases ht with
  | @padded w w' hw hw' =>
    obtain ⟨fault, hf⟩ := h w w' hw hw'.ends
    refine ⟨fault.message (w ++ (v ++ w')), ?_⟩
    simp only [Reader.parse, Reader.readAll, hf]
    rfl

/-- What is read as a whole text is what comes first and white space. -/
theorem run_of_parse (h : p.parse s = .ok a) : ∃ r, p.run s = .ok (a, r) ∧ Blank r := by
  unfold Reader.parse Reader.readAll at h
  split at h
  · cases h
  · next a' r hp =>
    obtain ⟨w, hw, hr⟩ := blank_of_skipSpace r
    split at h
    · next hs =>
      cases h
      rw [hs, List.append_nil] at hr
      exact ⟨r, hp, hr ▸ hw⟩
    · cases h

/-- **What an exact reader reads as a whole text is one of its values.** -/
theorem Exact.text {R : Bytes → α → Prop} (h : p.Exact R) (hs : p.parse s = .ok a) :
    ∃ v, R v a ∧ IsText v s := by
  obtain ⟨r, hp, hr⟩ := run_of_parse hs
  obtain ⟨w, v, hw, hv, rfl⟩ := h.sound _ _ _ hp
  exact ⟨v, hv, .padded hw hr⟩

end Reader

/-! ## The first octet of a value -/

theorem skipSpace_padded (hw : Blank w) (hb : isSpace b = false) (s r : Bytes) :
    skipSpace (w ++ (b :: s ++ r)) = b :: (s ++ r) := by
  rw [skipSpace_blank hw, List.cons_append, skipSpace_cons hb]

/-- Only strings begin with a quote, and only `null` with its first letter. -/
theorem head_of_other (h : IsValue v) (hnull : v ≠ nullWord) (htext : ∀ raw, v ≠ inQuotes raw) :
    ∃ b s, v = b :: s ∧ isSpace b = false ∧ b ≠ quote ∧ b ≠ 0x6E := by
  obtain ⟨b, s, hb, hspace, -⟩ := h.skipped.head
  refine ⟨b, s, hb, hspace, ?_⟩
  cases h with
  | null => exact absurd rfl hnull
  | text => exact absurd rfl (htext _)
  | number hn =>
    obtain ⟨b', s', hb', hd⟩ := hn.head
    rw [hb] at hb'
    cases hb'
    constructor <;> rintro rfl <;> exact absurd hd (by decide)
  | _ =>
    cases hb
    exact ⟨by decide, by decide⟩

theorem raw_of_value (h : IsValue (inQuotes raw)) : IsRaw raw := by
  generalize hv : inQuotes raw = v at h
  cases h with
  | text hraw =>
    rw [List.append_cancel_right (List.cons.inj hv).2]
    exact hraw
  | number hn =>
    obtain ⟨b, s, hb, hd⟩ := hn.head
    rw [hb] at hv
    rw [← (List.cons.inj hv).1] at hd
    exact absurd hd (by decide)
  | _ => exact absurd (List.cons.inj hv).1 (by decide)

/-- Every value is `null`, a string or something else. -/
theorem IsValue.exists_holds (h : IsValue v) : ∃ held, Holds v held := by
  by_cases hnull : v = nullWord
  · exact ⟨.null, hnull ▸ .null⟩
  by_cases htext : ∃ raw, v = inQuotes raw
  · obtain ⟨raw, rfl⟩ := htext
    by_cases hspell : ∃ cs, Spells raw cs
    · obtain ⟨cs, hcs⟩ := hspell
      exact ⟨.text (String.ofList cs), .text (by rwa [String.toList_ofList])⟩
    · exact ⟨.garbled, .garbled (raw_of_value h) (not_exists.mp hspell)⟩
  · exact ⟨.other, .other h hnull (not_exists.mp htext)⟩

/-- An exact reader reads no value but its own. -/
theorem Reader.Exact.of_run {R : Bytes → α → Prop} (h : p.Exact R) (hv : IsValue v)
    (hrun : p.run v = .ok (a, [])) : R v a := by
  obtain ⟨w, v', hw, hR, he⟩ := h.sound _ _ _ hrun
  obtain ⟨b, s, hb, hspace, -⟩ := hv.skipped.head
  rw [List.append_nil] at he
  cases w with
  | nil =>
    rw [List.nil_append] at he
    rwa [he]
  | cons c w =>
    -- a value does not begin with white space
    rw [hb, List.cons_append] at he
    have hc := hw c List.mem_cons_self
    rw [← (List.cons.inj he).1, hspace] at hc
    cases hc

theorem Reader.Takes.run (h : p.Takes v a) : p.run v = .ok (a, []) := by
  have hrun := h [] [] .nil .nil
  rwa [List.nil_append, List.append_nil] at hrun

/-- An exact reader takes no value but its own. -/
theorem Reader.Exact.of_takes {R : Bytes → α → Prop} (h : p.Exact R) (hv : IsValue v)
    (ht : p.Takes v a) : R v a := h.of_run hv ht.run

/-- What is made of a value by an exact reader is made of one of its own. -/
theorem Reader.Exact.of_map_takes {R : Bytes → α → Prop} {f : α → β} {b : β} (h : p.Exact R)
    (hv : IsValue v) (ht : (p.map f).Takes v b) : ∃ a, R v a ∧ f a = b := by
  have hrun := ht.run
  cases hp : p.run v with
  | error fault =>
    simp only [Reader.map, hp] at hrun
    cases hrun
  | ok x =>
    obtain ⟨a, r⟩ := x
    simp only [Reader.map, hp] at hrun
    cases hrun
    exact ⟨a, h.of_run hv hp, rfl⟩

/-! ## Strings and null -/

theorem parsed_run (wanted : String) (parse : String → Except String α) (s : Bytes) :
    (Reader.parsed wanted parse).run s = scanParsed wanted parse s := rfl

theorem orNull_run (p : Reader α) (s : Bytes) : p.orNull.run s = scanOrNull p s := rfl

theorem boolean_run (s : Bytes) : Reader.boolean.run s = scanBoolean s := rfl

theorem variant_run (variants : List (String × α)) (s : Bytes) :
    (Reader.variant variants).run s = scanVariant variants s := rfl

theorem list_run (p : Reader α) (s : Bytes) : p.list.run s = scanList p s := rfl

/-- A reader of strings takes a string that its function accepts. -/
theorem parsed_takes {wanted : String} {parse : String → Except String α}
    (hs : Spells raw t.toList) (hp : parse t = .ok a) :
    (Reader.parsed wanted parse).Takes (inQuotes raw) a := by
  intro w r hw _
  have htext := scanText_spells hs [] r
  rw [List.reverse_nil, List.nil_append, String.ofList_toList] at htext
  rw [inQuotes, parsed_run, scanParsed, skipSpace_padded hw (by decide), List.append_assoc]
  simp only [if_true, List.cons_append, List.nil_append, htext, hp]

theorem text_takes (hs : Spells raw t.toList) : Reader.text.Takes (inQuotes raw) t :=
  parsed_takes hs rfl

/-- A reader that may take `null` takes it. -/
theorem orNull_null (p : Reader α) : p.orNull.Takes nullWord none := by
  intro w r hw _
  rw [orNull_run, scanOrNull, skipSpace_padded hw (by decide)]
  simp only [if_true, scanWord_append, Except.map]

/-- A reader that may take `null` takes what the reader of other values takes. -/
theorem orNull_takes (hb : isSpace b = false) (hn : b ≠ 0x6E) (h : p.Takes (b :: s) a) :
    p.orNull.Takes (b :: s) (some a) := by
  intro w r hw hr
  rw [orNull_run, scanOrNull, skipSpace_padded hw hb]
  simp only [if_neg hn]
  exact (h.map some) [] r .nil hr

theorem orNull_refuses (hb : isSpace b = false) (hn : b ≠ 0x6E) (h : p.Refuses (b :: s)) :
    p.orNull.Refuses (b :: s) := by
  intro w r hw hr
  rw [orNull_run, scanOrNull, skipSpace_padded hw hb]
  simp only [if_neg hn]
  exact (h.map some) [] r .nil hr

theorem text_refuses (hb : isSpace b = false) (hq : b ≠ quote) : Reader.text.Refuses (b :: s) := by
  intro w r hw _
  rw [Reader.text, parsed_run, scanParsed, skipSpace_padded hw hb]
  simp only [if_neg hq]
  exact ⟨_, rfl⟩

/-- A string that is given, or `null`. -/
def Held.ofOption : Option String → Held
  | none => .null
  | some t => .text t

theorem textOrNull_takes {o : Option String} (h : Holds v (.ofOption o)) :
    Reader.text.orNull.Takes v o := by
  cases o with
  | none =>
    cases h
    exact orNull_null _
  | some t =>
    cases h with
    | text hs => exact orNull_takes (by decide) (by decide) (text_takes hs)

/-- What is neither a string nor `null` is refused. -/
theorem textOrNull_refuses (h : Holds v .other) : Reader.text.orNull.Refuses v := by
  cases h with
  | other hv hnull htext =>
    obtain ⟨b, s, rfl, hspace, hquote, hn⟩ := head_of_other hv hnull htext
    exact orNull_refuses hspace hn (text_refuses hspace hquote)

theorem Holds.isValue {held : Held} (h : Holds v held) : IsValue v := by
  cases h with
  | null => exact .null
  | text hs => exact .text hs.isRaw
  | garbled hraw _ => exact .text hraw
  | other hv _ _ => exact hv

/-- What the reader of strings reads is a string, after white space. -/
theorem string_of_run (h : Reader.text.run s = .ok (t, r)) :
    ∃ w v, Blank w ∧ Holds v (.text t) ∧ s = w ++ (v ++ r) := by
  obtain ⟨w, hw, hs⟩ := blank_of_skipSpace s
  rw [Reader.text, parsed_run, scanParsed] at h
  cases hb : skipSpace s with
  | nil =>
    rw [hb] at h
    cases h
  | cons b r0 =>
    rw [hb] at h
    dsimp only at h
    by_cases hq : b = quote
    · rw [if_pos hq] at h
      cases ht : scanText none [] r0 with
      | error fault =>
        rw [ht] at h
        cases h
      | ok x =>
        rw [ht] at h
        cases h
        obtain ⟨-, raw, cs, hspell, hr0, ht⟩ := spells_of_scanText ht
        refine ⟨w, inQuotes raw, hw, .text (by rw [ht]; simpa using hspell), ?_⟩
        rw [hs, hb, hq, hr0, inQuotes_append]
    · rw [if_neg hq] at h
      cases h

/-- What is read where `null` may stand is `null`, or what the reader of other values reads behind
white space. -/
theorem orNull_of_run {o : Option α} (h : p.orNull.run s = .ok (o, r)) :
    ∃ w, Blank w ∧ ((o = none ∧ s = w ++ (nullWord ++ r)) ∨
      ∃ a s', o = some a ∧ s = w ++ s' ∧ p.run s' = .ok (a, r)) := by
  obtain ⟨w, hw, hs⟩ := blank_of_skipSpace s
  -- the reader of other values goes on where the white space has been skipped
  have other : (p.map some).run (skipSpace s) = .ok (o, r) →
      ∃ a s', o = some a ∧ s = w ++ s' ∧ p.run s' = .ok (a, r) := by
    intro h
    cases hp : p.run (skipSpace s) with
    | error fault =>
      simp only [Reader.map, hp] at h
      cases h
    | ok x =>
      simp only [Reader.map, hp] at h
      cases h
      exact ⟨_, _, rfl, hs, hp⟩
  rw [orNull_run, scanOrNull] at h
  refine ⟨w, hw, ?_⟩
  split at h
  · next hb => exact .inr (other (by rw [hb]; exact h))
  · next b r0 hb =>
    split at h
    · next hn =>
      cases hword : scanWord [0x75, 0x6C, 0x6C] r0 with
      | error fault =>
        rw [hword] at h
        cases h
      | ok r1 =>
        rw [hword] at h
        cases h
        refine .inl ⟨rfl, ?_⟩
        rw [hs, hb, hn, word_of_scan hword]
        rfl
    · exact .inr (other (by rw [hb]; exact h))

/-- **A reader of strings** reads these and nothing else. -/
theorem text_exact : Reader.text.Exact fun v t => Holds v (.text t) where
  value v t h := h.isValue
  takes v t h := by
    cases h with
    | text hs => exact text_takes hs
  sound s t r h := string_of_run h

/-- **A reader of strings that may be `null`** reads these and nothing else. -/
theorem textOrNull_exact : Reader.text.orNull.Exact fun v o => Holds v (.ofOption o) where
  value v o h := h.isValue
  takes v o h := textOrNull_takes h
  sound := by
    intro s o r h
    obtain ⟨w, hw, ⟨rfl, hs⟩ | ⟨t, s', rfl, hs, ht⟩⟩ := orNull_of_run h
    · exact ⟨w, nullWord, hw, .null, hs⟩
    · obtain ⟨w', v, hw', hv, hs'⟩ := string_of_run ht
      exact ⟨w ++ w', v, hw.append hw', hv, by rw [hs, hs', List.append_assoc]⟩

/-! ## Truth values and named values -/

theorem boolean_takes (x : Bool) :
    Reader.boolean.Takes (if x then trueWord else falseWord) x := by
  intro w r hw _
  cases x with
  | true =>
    rw [if_pos rfl, boolean_run, scanBoolean, skipSpace_padded hw (by decide)]
    simp only [if_true, scanWord_append, Except.map]
  | false =>
    rw [if_neg Bool.false_ne_true, boolean_run, scanBoolean, skipSpace_padded hw (by decide)]
    simp only [if_neg (show (0x66 : UInt8) ≠ 0x74 by decide), if_true, scanWord_append, Except.map]

/-- A value is taken by its name. -/
theorem variant_takes {variants : List (String × α)} {name : String}
    (hs : Spells raw name.toList) (ha : variants.find? (fun v => v.1 == name) = some (name, a)) :
    (Reader.variant variants).Takes (inQuotes raw) a := by
  intro w r hw _
  have htext := scanText_spells hs [] r
  rw [List.reverse_nil, List.nil_append, String.ofList_toList] at htext
  rw [inQuotes, variant_run, scanVariant, skipSpace_padded hw (by decide), List.append_assoc]
  simp only [if_neg (show quote ≠ openObject by decide), if_true, scanVariantName,
    skipSpace_cons (show isSpace quote = false by decide), List.cons_append, List.nil_append, htext,
    findVariant, ha]

/-! ## Arrays -/

/-- What stands before an element: white space, after a comma if it is not the first. -/
inductive Lead : Bool → Bytes → Prop
  | first {w : Bytes} : Blank w → Lead true w
  | later {w w' : Bytes} : Blank w → Blank w' → Lead false (w ++ comma :: w')

/-- The elements or members that are left, from white space on, up to what follows the bracket. -/
def Frame.rest (f : Frame) (first : Bool) (w : Bytes) (parts : List Bytes) (r : Bytes) : Bytes :=
  w ++ if first then separated parts ++ f.close :: r else f.tail parts r

theorem Frame.rest_nil (f : Frame) (first : Bool) (w r : Bytes) :
    f.rest first w [] r = w ++ f.close :: r := by
  cases first <;> rfl

theorem Frame.rest_true_cons (f : Frame) (w part r : Bytes) (parts : List Bytes) :
    f.rest true w (part :: parts) r = w ++ (part ++ f.rest false [] parts r) := by
  simp [Frame.rest, separated, Frame.tail]

theorem Frame.rest_false_cons (f : Frame) (w part r : Bytes) (parts : List Bytes) :
    f.rest false w (part :: parts) r = w ++ comma :: (part ++ f.rest false [] parts r) := by
  simp [Frame.rest, Frame.tail]

theorem Frame.append_rest (f : Frame) (w w' : Bytes) (parts : List Bytes) (r : Bytes) :
    w ++ f.rest false w' parts r = f.rest false (w ++ w') parts r := by
  simp [Frame.rest]

theorem Frame.octets_append (f : Frame) (w : Bytes) (parts : List Bytes) (r : Bytes) :
    f.octets w parts ++ r = f.opening :: f.rest true w parts r := by
  simp [Frame.octets, Frame.rest]

/-- A number may stand before what is left behind a part. -/
theorem ends_rest (hw : Blank w) (f : Frame) (parts : List Bytes) (r : Bytes) :
    Ends (f.rest false w parts r) := ends_tail hw f parts r

/-- What comes before a part can be counted among its white space. -/
theorem Lead.rest {l : Bytes} (h : Lead first l) : ∃ w w', Blank w ∧ Blank w' ∧
    ∀ (f : Frame) part parts r, l ++ (part ++ f.rest false [] parts r) =
      f.rest first w ((w' ++ part) :: parts) r := by
  cases h with
  | first hw => exact ⟨l, [], hw, .nil, fun f part parts r => (f.rest_true_cons _ _ _ _).symm⟩
  | @later w w' hw hw' =>
    refine ⟨w, w', hw, hw', fun f part parts r => ?_⟩
    rw [f.rest_false_cons]
    simp

theorem scanNext_end (hw : Blank w) (first : Bool) (r : Bytes) :
    scanNext first (Frame.list.rest first w [] r) = .ok (false, closeList :: r) := by
  rw [Frame.rest_nil, scanNext, skipSpace_blank hw, skipSpace_cons (by decide)]
  simp only [Frame.close, if_true]

/-- An element follows, behind a comma if it is not the first. -/
theorem scanNext_item {i : Padded} (hw : Blank w) (hs : i.Spaced) (hv : IsValue i.value)
    (first : Bool) (parts : List Bytes) (r : Bytes) :
    scanNext first (Frame.list.rest first w (i.octets :: parts) r) =
      .ok (true, i.value ++ Frame.list.rest false i.after parts r) := by
  obtain ⟨b, s, hb, hspace, hclose⟩ := hv.skipped.head
  have hitem : skipSpace (i.octets ++ Frame.list.rest false [] parts r) =
      b :: (s ++ Frame.list.rest false i.after parts r) := by
    rw [i.octets_append, skipSpace_blank hs.1, hb, List.cons_append, skipSpace_cons hspace,
      Frame.append_rest, List.append_nil]
  cases first with
  | true =>
    rw [Frame.rest_true_cons, scanNext, skipSpace_blank hw, hitem, hb]
    simp only [if_neg hclose, if_true, List.cons_append]
  | false =>
    rw [Frame.rest_false_cons, scanNext, skipSpace_blank hw, skipSpace_cons (by decide), hb]
    simp only [if_neg (show comma ≠ closeList by decide), if_neg Bool.false_ne_true, if_true, hitem,
      if_neg hclose, List.cons_append]

theorem lead_of_next (h : scanNext first s = .ok (true, r)) : ∃ l, Lead first l ∧ s = l ++ r := by
  obtain ⟨w, hw, hs⟩ := blank_of_skipSpace s
  unfold scanNext at h
  split at h
  · cases h
  · next b r0 hb =>
    split at h
    · cases h
    · split at h
      · next hfirst =>
        cases h
        rw [hfirst]
        exact ⟨w, .first hw, by rw [← hb, ← hs]⟩
      · next hfirst =>
        rw [Bool.not_eq_true] at hfirst
        split at h
        · next hcomma =>
          obtain ⟨w', hw', hr0⟩ := blank_of_skipSpace r0
          split at h
          · cases h
          · next c rest hc =>
            split at h
            · cases h
            · cases h
              rw [hfirst]
              refine ⟨_, .later hw hw', ?_⟩
              rw [hs, hb, hcomma, hr0, hc]
              simp
        · cases h

theorem end_of_next (h : scanNext first s = .ok (false, r)) :
    ∃ w r', Blank w ∧ s = w ++ r ∧ r = closeList :: r' := by
  obtain ⟨w, hw, hs⟩ := blank_of_skipSpace s
  unfold scanNext at h
  split at h
  · cases h
  · next b r0 hb =>
    split at h
    · next hclose =>
      cases h
      exact ⟨w, r0, hw, by rw [← hb, ← hs], by rw [hclose]⟩
    · split at h
      · cases h
      · split at h
        · split at h
          · cases h
          · split at h <;> cases h
        · cases h

theorem scanElements_end (h : scanNext first s = .ok (false, r)) (acc : List α) :
    scanElements p first acc s = .ok (acc.reverse, r) := by
  rw [scanElements]
  split <;> simp_all

theorem scanElements_next {r' : Bytes} (h : scanNext first s = .ok (true, r))
    (hp : p.run r = .ok (a, r')) (acc : List α) :
    scanElements p first acc s = scanElements p false (a :: acc) r' := by
  rw [scanElements]
  split
  · simp_all
  · simp_all
  · next hn =>
    rw [h] at hn
    cases hn
    split <;> simp_all

/-- The elements are read one by one. -/
theorem scanElements_items {items : List Padded} {l acc : List α}
    (ht : List.Forall₂ (fun i a => p.Takes i.value a) items l) (hs : ∀ i ∈ items, i.Spaced)
    (hv : ∀ i ∈ items, IsValue i.value) (hw : Blank w) (r : Bytes) :
    scanElements p first acc (Frame.list.rest first w (items.map Padded.octets) r) =
      .ok (acc.reverse ++ l, closeList :: r) := by
  induction ht generalizing first acc w with
  | nil =>
    rw [List.map_nil, scanElements_end (scanNext_end hw first r), List.append_nil]
  | @cons i a items l ha _ ih =>
    have hi := hs i List.mem_cons_self
    have hnext := scanNext_item hw hi (hv i List.mem_cons_self) first (items.map Padded.octets) r
    -- the white space behind the element comes to stand before what is left
    have hrun := ha [] (Frame.list.rest false i.after (items.map Padded.octets) r) .nil
      (ends_rest hi.2 _ _ _)
    rw [List.map_cons, scanElements_next hnext hrun,
      ih (fun i hi => hs i (List.mem_cons_of_mem _ hi))
        (fun i hi => hv i (List.mem_cons_of_mem _ hi)) hi.2]
    simp

/-- **An array is read element by element.** -/
theorem list_takes {items : List Padded} {l : List α}
    (ht : List.Forall₂ (fun i a => p.Takes i.value a) items l) (hw : Blank w)
    (hs : ∀ i ∈ items, i.Spaced) (hv : ∀ i ∈ items, IsValue i.value) :
    p.list.Takes (listOctets w items) l := by
  intro w' r hw' _
  have hlist : listOctets w items ++ r =
      openList :: Frame.list.rest true w (items.map Padded.octets) r := by
    rw [listOctets_eq, Frame.octets_append]
    rfl
  rw [hlist, list_run, scanList, skipSpace_blank hw', skipSpace_cons (by decide)]
  simp only [if_true, scanElements_items ht hs hv hw r, scanListEnd,
    skipSpace_cons (show isSpace closeList = false by decide), Except.map, List.reverse_nil,
    List.nil_append]

end OutboxProvisioning.Json
