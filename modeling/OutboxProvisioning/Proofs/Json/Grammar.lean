import Mathlib.Data.List.Forall2
import OutboxProvisioning.Json.Number
import OutboxProvisioning.Proofs.Utf8

/-!
# The grammar of JSON texts

What a JSON text is, without saying how one is read. Strings are octets: what they spell is a
second question, which only some of them have an answer to.

* `IsValue`: a value of any kind, nested to any depth.
* `Spells`: the characters that stand between the quotes of a string.
* `IsObject`: an object with its members, names spelled out and values as they are written.
* `IsList`: an array with its elements.
* `IsText`: a value with white space around it.
* `Holds`: what a value is to those who want a string or `null`.
-/

namespace OutboxProvisioning.Json

/-- White space between tokens. -/
def Blank (w : Bytes) : Prop := ∀ b ∈ w, isSpace b = true

/-- A string of these octets. -/
def inQuotes (raw : Bytes) : Bytes := quote :: (raw ++ [quote])

/-- The octets of `null`. -/
abbrev nullWord : Bytes := [0x6E, 0x75, 0x6C, 0x6C]

/-- The octets of `true`. -/
abbrev trueWord : Bytes := [0x74, 0x72, 0x75, 0x65]

/-- The octets of `false`. -/
abbrev falseWord : Bytes := [0x66, 0x61, 0x6C, 0x73, 0x65]

/-- Four hexadecimal digits of the number `n`. -/
inductive Hex : Nat → Bytes → Prop
  | digits {a b c d : UInt8} {x y z w : Nat} : hexValue? a = some x → hexValue? b = some y →
      hexValue? c = some z → hexValue? d = some w →
      Hex (((x * 16 + y) * 16 + z) * 16 + w) [a, b, c, d]

/-- What may follow a backslash: a letter, or `u` and a number. -/
inductive IsEscape : Bytes → Prop
  | short {b : UInt8} : (shortEscape? b).isSome = true → IsEscape [b]
  | numbered {n : Nat} {ds : Bytes} : Hex n ds → IsEscape (0x75 :: ds)

/-- What may stand between the quotes of a string: octets other than quotes, backslashes and
control characters, and escapes. -/
inductive IsRaw : Bytes → Prop
  | nil : IsRaw []
  | plain {b : UInt8} {r : Bytes} : 0x20 ≤ b.toNat → b ≠ quote → b ≠ backslash → IsRaw r →
      IsRaw (b :: r)
  | escape {e r : Bytes} : IsEscape e → IsRaw r → IsRaw (backslash :: (e ++ r))

/-- What follows a backslash to stand for a character: a letter, or the number of the character,
or two numbers that are a surrogate pair. -/
inductive Escape : Bytes → Char → Prop
  | short {b : UInt8} {c : Char} : shortEscape? b = some c → Escape [b] c
  | numbered {n : Nat} {ds : Bytes} : Hex n ds → isLowSurrogate n = false →
      isHighSurrogate n = false → Escape (0x75 :: ds) (Char.ofNat n)
  | pair {high low : Nat} {ds es : Bytes} : Hex high ds → isHighSurrogate high = true →
      Hex low es → isLowSurrogate low = true →
      Escape (0x75 :: (ds ++ backslash :: 0x75 :: es))
        (Char.ofNat (0x10000 + (high - 0xD800) * 0x400 + (low - 0xDC00)))

/-- The characters that stand between the quotes of a string. -/
inductive Spells : Bytes → List Char → Prop
  | nil : Spells [] []
  | plain {c : Char} {r : Bytes} {cs : List Char} : 0x20 ≤ c.toNat → c ≠ '\"' → c ≠ '\\' →
      Spells r cs → Spells (String.utf8EncodeChar c ++ r) (c :: cs)
  | escape {e : Bytes} {c : Char} {r : Bytes} {cs : List Char} : Escape e c → Spells r cs →
      Spells (backslash :: (e ++ r)) (c :: cs)

/-- Digits alone, at least one. -/
def Digits (ds : Bytes) : Prop := ds ≠ [] ∧ ∀ d ∈ ds, isDigit d = true

/-- The whole part of a number: a zero alone, or digits that do not begin with one. -/
inductive IsWhole : Bytes → Prop
  | zero : IsWhole [0x30]
  | digits {d : UInt8} {ds : Bytes} : isDigit d = true → d ≠ 0x30 → (∀ d ∈ ds, isDigit d = true) →
      IsWhole (d :: ds)

/-- A point with digits, or nothing. -/
inductive IsFraction : Bytes → Prop
  | none : IsFraction []
  | digits {ds : Bytes} : Digits ds → IsFraction (point :: ds)

/-- An exponent with digits, or nothing. -/
inductive IsExponent : Bytes → Prop
  | none : IsExponent []
  | digits {e : UInt8} {sign ds : Bytes} : isExponentMark e = true →
      sign = [] ∨ sign = [plus] ∨ sign = [minus] → Digits ds → IsExponent (e :: (sign ++ ds))

/-- A number after its sign. -/
inductive IsMagnitude : Bytes → Prop
  | parts {w f e : Bytes} : IsWhole w → IsFraction f → IsExponent e → IsMagnitude (w ++ (f ++ e))

/-- A number. -/
inductive IsNumber : Bytes → Prop
  | plain {m : Bytes} : IsMagnitude m → IsNumber m
  | negative {m : Bytes} : IsMagnitude m → IsNumber (minus :: m)

/-- A value with the white space around it. -/
structure Padded where
  before : Bytes
  value : Bytes
  after : Bytes

/-- The octets of a value with its white space. -/
def Padded.octets (p : Padded) : Bytes := p.before ++ (p.value ++ p.after)

/-- What stands around the value is white space. -/
def Padded.Spaced (p : Padded) : Prop := Blank p.before ∧ Blank p.after

/-- A member of an object with the white space around its parts. -/
structure Entry where
  before : Bytes
  /-- What stands between the quotes of its name. -/
  name : Bytes
  between : Bytes
  content : Padded

/-- The octets of a member. -/
def Entry.octets (e : Entry) : Bytes :=
  e.before ++ (inQuotes e.name ++ (e.between ++ colon :: e.content.octets))

/-- What stands around the parts is white space. -/
def Entry.Spaced (e : Entry) : Prop := Blank e.before ∧ Blank e.between ∧ e.content.Spaced

/-- Parts with commas between them. -/
def separated : List Bytes → Bytes
  | [] => []
  | s :: ss => s ++ ss.flatMap (comma :: ·)

/-- An array of these elements; `w` is the white space of an empty one. -/
def listOctets (w : Bytes) (items : List Padded) : Bytes :=
  openList :: (w ++ (separated (items.map Padded.octets) ++ [closeList]))

/-- An object of these members; `w` is the white space of an empty one. -/
def objectOctets (w : Bytes) (entries : List Entry) : Bytes :=
  openObject :: (w ++ (separated (entries.map Entry.octets) ++ [closeObject]))

/-- **A JSON value**, without white space around it. -/
inductive IsValue : Bytes → Prop
  | null : IsValue nullWord
  | true : IsValue trueWord
  | false : IsValue falseWord
  | number {s : Bytes} : IsNumber s → IsValue s
  | text {raw : Bytes} : IsRaw raw → IsValue (inQuotes raw)
  | list {w : Bytes} {items : List Padded} : Blank w → (∀ i ∈ items, i.Spaced) →
      (∀ i ∈ items, IsValue i.value) → IsValue (listOctets w items)
  | object {w : Bytes} {entries : List Entry} : Blank w → (∀ e ∈ entries, e.Spaced) →
      (∀ e ∈ entries, IsRaw e.name) → (∀ e ∈ entries, IsValue e.content.value) →
      IsValue (objectOctets w entries)

/-- An array with its elements as they are written. -/
inductive IsList : Bytes → List Bytes → Prop
  | items {w : Bytes} {items : List Padded} : Blank w → (∀ i ∈ items, i.Spaced) →
      (∀ i ∈ items, IsValue i.value) → IsList (listOctets w items) (items.map Padded.value)

theorem IsList.isValue {v : Bytes} {elements : List Bytes} (h : IsList v elements) : IsValue v := by
  cases h with
  | items hw hs hv => exact .list hw hs hv

theorem IsList.values {v : Bytes} {elements : List Bytes} (h : IsList v elements) :
    ∀ u ∈ elements, IsValue u := by
  cases h with
  | items _ _ hv =>
    intro u hu
    obtain ⟨i, hi, rfl⟩ := List.mem_map.mp hu
    exact hv i hi

/-- A member with its name spelled out and its value as it is written. -/
def Entry.Is (e : Entry) (m : String × Bytes) : Prop :=
  Spells e.name m.1.toList ∧ e.content.value = m.2

/-- **An object with its members**: their names spelled out, their values as they are written. -/
inductive IsObject : Bytes → List (String × Bytes) → Prop
  | entries {w : Bytes} {entries : List Entry} {members : List (String × Bytes)} : Blank w →
      (∀ e ∈ entries, e.Spaced) → (∀ e ∈ entries, IsValue e.content.value) →
      List.Forall₂ Entry.Is entries members → IsObject (objectOctets w entries) members

theorem IsObject.values {v : Bytes} {members : List (String × Bytes)} (h : IsObject v members) :
    ∀ m ∈ members, IsValue m.2 := by
  cases h with
  | entries _ hs hv he =>
    clear hs
    induction he with
    | nil => simp
    | cons hm _ ih =>
      obtain ⟨hfirst, hrest⟩ := List.forall_mem_cons.mp hv
      exact List.forall_mem_cons.mpr ⟨hm.2 ▸ hfirst, ih hrest⟩

/-- Two lists have the same names in the same order, with things under them that `R` relates. -/
def Named {β γ : Type} (R : β → γ → Prop) (ms : List (String × β)) (xs : List (String × γ)) :
    Prop :=
  List.Forall₂ (fun m x => m.1 = x.1 ∧ R m.2 x.2) ms xs

namespace Named

variable {β γ : Type} {R : β → γ → Prop} {ms : List (String × β)} {xs : List (String × γ)}
  {n : String} {u : β} {x : γ}

theorem names_eq (h : Named R ms xs) : ms.map Prod.fst = xs.map Prod.fst := by
  induction h with
  | nil => rfl
  | cons hm _ ih => rw [List.map_cons, List.map_cons, hm.1, ih]

theorem content (h : Named R ms xs) (hu : (n, u) ∈ ms) : ∃ x, (n, x) ∈ xs ∧ R u x := by
  induction h with
  | nil => cases hu
  | @cons m y ms xs hm _ ih =>
    rcases List.mem_cons.mp hu with rfl | hu
    · obtain ⟨n', y⟩ := y
      obtain ⟨rfl, hy⟩ : n = n' ∧ R u y := hm
      exact ⟨y, List.mem_cons_self, hy⟩
    · obtain ⟨y, hy, hr⟩ := ih hu
      exact ⟨y, List.mem_cons_of_mem _ hy, hr⟩

theorem member (h : Named R ms xs) (hx : (n, x) ∈ xs) : ∃ u, (n, u) ∈ ms ∧ R u x := by
  induction h with
  | nil => cases hx
  | @cons m y ms xs hm _ ih =>
    rcases List.mem_cons.mp hx with rfl | hx
    · obtain ⟨n', u⟩ := m
      obtain ⟨rfl, hu⟩ : n' = n ∧ R u x := hm
      exact ⟨u, List.mem_cons_self, hu⟩
    · obtain ⟨u, hu, hr⟩ := ih hx
      exact ⟨u, List.mem_cons_of_mem _ hu, hr⟩

end Named

/-- A text of one value, with white space around it. -/
inductive IsText (v : Bytes) : Bytes → Prop
  | padded {w w' : Bytes} : Blank w → Blank w' → IsText v (w ++ (v ++ w'))

/-- What a value is to those who want a string or `null`. -/
inductive Held
  | null
  | text (t : String)
  /-- A string that spells no Unicode text. -/
  | garbled
  | other
deriving DecidableEq

/-- What a value holds. -/
inductive Holds : Bytes → Held → Prop
  | null : Holds nullWord .null
  | text {raw : Bytes} {t : String} : Spells raw t.toList → Holds (inQuotes raw) (.text t)
  | garbled {raw : Bytes} : IsRaw raw → (∀ cs, ¬ Spells raw cs) → Holds (inQuotes raw) .garbled
  | other {v : Bytes} : IsValue v → v ≠ nullWord → (∀ raw, v ≠ inQuotes raw) → Holds v .other

end OutboxProvisioning.Json
