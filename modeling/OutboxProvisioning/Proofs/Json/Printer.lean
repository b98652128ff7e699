import OutboxProvisioning.Proofs.Json.Natural
import OutboxProvisioning.Proofs.Json.Object

/-!
# What is written is in the grammar

Every printer writes octets of the grammar, and the reader of its type takes them back.

* `spells_written`: a string is written as what it spells.
* `list_octets`, `object_octets`: arrays and objects are written without white space.
* `text_written`, `boolean_written`, `nat_written`, `option_written`, `list_written`: what is read
  back.
-/

namespace OutboxProvisioning.Json

open Utf8 (encodeChars)

variable {α : Type} {a : α} {c : Char} {cs vs : List Char} {n : Nat} {p : Reader α} {t : String}

/-! ## Strings -/

/-- The hexadecimal digits of a control character. -/
theorem hex_control (h : n < 0x20) : Hex n (0x30 :: 0x30 :: encodeChars (hexPair n)) := by
  -- both digits are found among the sixteen there are
  have hdigit : ∀ d < 16, (encodeChars (Nat.toDigits 16 d)).map hexValue? = [some d] := by decide
  have hhigh := hdigit (n / 16) (by omega)
  have hlow := hdigit (n % 16) (by omega)
  obtain ⟨a, ha, hva⟩ := List.map_eq_singleton_iff.mp hhigh
  obtain ⟨b, hb, hvb⟩ := List.map_eq_singleton_iff.mp hlow
  have hn : n = ((0 * 16 + 0) * 16 + n / 16) * 16 + n % 16 := by omega
  rw [hexPair, Utf8.encodeChars_append, ha, hb]
  conv => lhs; rw [hn]
  exact .digits rfl rfl hva hvb

/-- A character is written as itself or as an escape that stands for it. -/
theorem escape_cases (c : Char) :
    (escapeChar c = [c] ∧ 0x20 ≤ c.toNat ∧ c ≠ '\"' ∧ c ≠ '\\') ∨
      ∃ e, encodeChars (escapeChar c) = backslash :: e ∧ Escape e c := by
  unfold escapeChar
  split
  · next h => exact .inr ⟨[0x22], rfl, h ▸ .short rfl⟩
  split
  · next h => exact .inr ⟨[0x5C], rfl, h ▸ .short rfl⟩
  split
  · next h => exact .inr ⟨[0x62], rfl, h ▸ .short rfl⟩
  split
  · next h => exact .inr ⟨[0x66], rfl, h ▸ .short rfl⟩
  split
  · next h => exact .inr ⟨[0x6E], rfl, h ▸ .short rfl⟩
  split
  · next h => exact .inr ⟨[0x72], rfl, h ▸ .short rfl⟩
  split
  · next h => exact .inr ⟨[0x74], rfl, h ▸ .short rfl⟩
  split
  · next h =>
    have hlow : isLowSurrogate c.toNat = false := by
      simp only [isLowSurrogate, Bool.and_eq_false_iff, decide_eq_false_iff_not]
      omega
    have hhigh : isHighSurrogate c.toNat = false := by
      simp only [isHighSurrogate, Bool.and_eq_false_iff, decide_eq_false_iff_not]
      omega
    refine .inr ⟨0x75 :: 0x30 :: 0x30 :: encodeChars (hexPair c.toNat), ?_, ?_⟩
    · rw [Utf8.encodeChars_append]
      rfl
    · have := Escape.numbered (hex_control h) hlow hhigh
      rwa [Char.ofNat_toNat] at this
  · next hquote hback _ _ _ _ _ hcontrol =>
    exact .inl ⟨rfl, Nat.not_lt.mp hcontrol, hquote, hback⟩

/-- **A string is written as what it spells.** -/
theorem spells_written (cs : List Char) : Spells (encodeChars (cs.flatMap escapeChar)) cs := by
  induction cs with
  | nil => exact .nil
  | cons c cs ih =>
    rw [List.flatMap_cons, Utf8.encodeChars_append]
    rcases escape_cases c with ⟨he, hc, hquote, hback⟩ | ⟨e, he, hesc⟩
    · rw [he, Utf8.encodeChars_cons]
      have := Spells.plain hc hquote hback ih
      simpa [encodeChars] using this
    · rw [he]
      exact .escape hesc ih

theorem text_octets (t : String) :
    encodeChars (writeText t) = inQuotes (encodeChars (t.toList.flatMap escapeChar)) := by
  have hquote : String.utf8EncodeChar '\"' = [quote] := rfl
  rw [writeText, List.cons_append, Utf8.encodeChars_cons, Utf8.encodeChars_append, hquote]
  rfl

theorem value_text (t : String) : IsValue (encodeChars (writeText t)) := by
  rw [text_octets]
  exact .text (spells_written _).isRaw

theorem holds_text (t : String) : Holds (encodeChars (writeText t)) (.text t) := by
  rw [text_octets]
  exact .text (spells_written _)

/-- A reader of strings takes back what spells its value. -/
theorem parsed_written {wanted : String} {parse : String → Except String α} (h : parse t = .ok a) :
    (Reader.parsed wanted parse).Takes (encodeChars (writeText t)) a := by
  rw [text_octets]
  exact parsed_takes (spells_written _) h

theorem text_written (t : String) : Reader.text.Takes (encodeChars (writeText t)) t :=
  parsed_written rfl

/-! ## Words and numbers -/

theorem boolean_octets (b : Bool) :
    encodeChars (writeBoolean b) = if b then trueWord else falseWord := by
  cases b <;> rfl

theorem value_boolean (b : Bool) : IsValue (encodeChars (writeBoolean b)) := by
  rw [boolean_octets]
  cases b
  · exact .false
  · exact .true

theorem boolean_written (b : Bool) : Reader.boolean.Takes (encodeChars (writeBoolean b)) b := by
  rw [boolean_octets]
  exact boolean_takes b

theorem value_nat (n : Nat) : IsValue (encodeChars (writeNat n)) := by
  have hm := IsMagnitude.parts (whole_octets n) .none .none
  rw [List.append_nil, List.append_nil] at hm
  exact .number (.plain hm)

theorem value_option {write : α → List Char} (h : ∀ a, IsValue (encodeChars (write a)))
    (o : Option α) : IsValue (encodeChars (writeOption write o)) := by
  cases o with
  | none => exact .null
  | some a => exact h a

/-- A reader that may take `null` takes what may be absent as it takes the rest, unless that is
written as a word that begins like `null`. -/
theorem option_written {β : Type} {q : Reader β} {write : α → List Char} {f : α → β}
    (hn : ∀ a, ∃ b s, encodeChars (write a) = b :: s ∧ isSpace b = false ∧ b ≠ 0x6E)
    (h : ∀ a, q.Takes (encodeChars (write a)) (f a)) (o : Option α) :
    q.orNull.Takes (encodeChars (writeOption write o)) (o.map f) := by
  cases o with
  | none => exact orNull_null q
  | some a =>
    obtain ⟨b, s, hb, hspace, hne⟩ := hn a
    have ha := h a
    rw [hb] at ha
    rw [writeOption, hb]
    exact orNull_takes hspace hne ha

/-! ## Arrays and objects -/

theorem commas_cons (v : List Char) (vs : List (List Char)) :
    commas (v :: vs) = v ++ vs.flatMap (',' :: ·) := by
  induction vs generalizing v with
  | nil => simp [commas]
  | cons u vs ih =>
    rw [commas, ih u, List.flatMap_cons, List.cons_append]
    exact List.cons_ne_nil u vs

theorem commas_octets (vs : List (List Char)) :
    encodeChars (commas vs) = separated (vs.map encodeChars) := by
  have hcomma : String.utf8EncodeChar ',' = [comma] := rfl
  have hrest : ∀ vs : List (List Char), encodeChars (vs.flatMap (',' :: ·)) =
      (vs.map encodeChars).flatMap (comma :: ·) := by
    intro vs
    induction vs with
    | nil => rfl
    | cons v vs ih =>
      rw [List.flatMap_cons, Utf8.encodeChars_append, Utf8.encodeChars_cons, ih, hcomma]
      rfl
  cases vs with
  | nil => rfl
  | cons v vs => rw [commas_cons, Utf8.encodeChars_append, hrest, List.map_cons, separated]

/-- A value without white space around it. -/
def bare (v : Bytes) : Padded := ⟨[], v, []⟩

theorem bare_spaced (v : Bytes) : (bare v).Spaced := ⟨.nil, .nil⟩

theorem bare_octets (v : Bytes) : (bare v).octets = v := by
  simp [bare, Padded.octets]

/-- **An array is written without white space.** -/
theorem list_octets (vs : List (List Char)) : encodeChars (writeList vs) =
    listOctets [] (vs.map fun v => bare (encodeChars v)) := by
  have hopen : String.utf8EncodeChar '[' = [openList] := rfl
  have hclose : encodeChars [']'] = [closeList] := rfl
  have hparts : (vs.map fun v => bare (encodeChars v)).map Padded.octets = vs.map encodeChars := by
    rw [List.map_map]
    exact List.map_congr_left fun v _ => bare_octets _
  rw [writeList, List.cons_append, Utf8.encodeChars_cons, Utf8.encodeChars_append, commas_octets,
    hopen, hclose, listOctets, hparts]
  rfl

theorem isList_written {vs : List (List Char)} (h : ∀ v ∈ vs, IsValue (encodeChars v)) :
    IsList (encodeChars (writeList vs)) (vs.map encodeChars) := by
  have hvalues : (vs.map fun v => bare (encodeChars v)).map Padded.value = vs.map encodeChars := by
    rw [List.map_map]
    exact List.map_congr_left fun v _ => rfl
  rw [list_octets, ← hvalues]
  refine .items .nil ?_ ?_
  · intro i hi
    obtain ⟨v, -, rfl⟩ := List.mem_map.mp hi
    exact bare_spaced _
  · intro i hi
    obtain ⟨v, hv, rfl⟩ := List.mem_map.mp hi
    exact h v hv

theorem value_list {vs : List (List Char)} (h : ∀ v ∈ vs, IsValue (encodeChars v)) :
    IsValue (encodeChars (writeList vs)) := (isList_written h).isValue

/-- An array is neither a string nor `null`. -/
theorem holds_list {vs : List (List Char)} (h : ∀ v ∈ vs, IsValue (encodeChars v)) :
    Holds (encodeChars (writeList vs)) .other := by
  refine .other (value_list h) ?_ ?_
  · rw [list_octets]
    intro hnull
    exact absurd (List.cons.inj hnull).1 (by decide)
  · rw [list_octets]
    intro raw htext
    exact absurd (List.cons.inj htext).1 (by decide)

/-- A reader of arrays takes back what is written of their elements. -/
theorem list_written {β : Type} {write : β → List Char} {f : β → α} (bs : List β)
    (hv : ∀ b, IsValue (encodeChars (write b))) (h : ∀ b, p.Takes (encodeChars (write b)) (f b)) :
    p.list.Takes (encodeChars (writeList (bs.map write))) (bs.map f) := by
  rw [list_octets, List.map_map]
  refine list_takes ?_ .nil ?_ ?_
  · rw [List.forall₂_map_left_iff, List.forall₂_map_right_iff, List.forall₂_same]
    exact fun b _ => h b
  · intro i hi
    obtain ⟨v, -, rfl⟩ := List.mem_map.mp hi
    exact bare_spaced _
  · intro i hi
    obtain ⟨b, -, rfl⟩ := List.mem_map.mp hi
    exact hv b

/-- A member as it is written. -/
def written (m : String × List Char) : Entry :=
  ⟨[], encodeChars (m.1.toList.flatMap escapeChar), [], bare (encodeChars m.2)⟩

theorem written_octets (m : String × List Char) :
    (written m).octets = encodeChars (writeText m.1 ++ ':' :: m.2) := by
  have hcolon : String.utf8EncodeChar ':' = [colon] := rfl
  rw [Utf8.encodeChars_append, text_octets, Utf8.encodeChars_cons, hcolon]
  simp [written, Entry.octets, bare_octets]

/-- **An object is written without white space.** -/
theorem object_octets (members : List (String × List Char)) :
    encodeChars (writeObject members) = objectOctets [] (members.map written) := by
  have hopen : String.utf8EncodeChar '\x7b' = [openObject] := rfl
  have hclose : encodeChars ['\x7d'] = [closeObject] := rfl
  have hparts : (members.map written).map Entry.octets =
      (members.map fun m => writeText m.1 ++ ':' :: m.2).map encodeChars := by
    rw [List.map_map, List.map_map]
    exact List.map_congr_left fun m _ => written_octets m
  rw [writeObject, List.cons_append, Utf8.encodeChars_cons, Utf8.encodeChars_append, commas_octets,
    hopen, hclose, objectOctets, hparts]
  rfl

/-- **What is written as an object is one**, with its members in their order. -/
theorem isObject_written {members : List (String × List Char)}
    (h : ∀ m ∈ members, IsValue (encodeChars m.2)) :
    IsObject (encodeChars (writeObject members))
      (members.map fun m => (m.1, encodeChars m.2)) := by
  rw [object_octets]
  refine .entries .nil ?_ ?_ ?_
  · intro e he
    obtain ⟨m, -, rfl⟩ := List.mem_map.mp he
    exact ⟨.nil, .nil, bare_spaced _⟩
  · intro e he
    obtain ⟨m, hm, rfl⟩ := List.mem_map.mp he
    exact h m hm
  · rw [List.forall₂_map_left_iff, List.forall₂_map_right_iff, List.forall₂_same]
    exact fun m _ => ⟨spells_written _, rfl⟩

theorem value_object {members : List (String × List Char)}
    (h : ∀ m ∈ members, IsValue (encodeChars m.2)) : IsValue (encodeChars (writeObject members)) :=
  (isObject_written h).isValue

/-- A value alone is a text. -/
theorem isText_bare (v : Bytes) : IsText v v := by
  have := IsText.padded (v := v) .nil .nil
  rwa [List.nil_append, List.append_nil] at this

end OutboxProvisioning.Json
