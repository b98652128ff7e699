import OutboxProvisioning.Proofs.Json.Printer
import OutboxProvisioning.Proofs.Text
import OutboxProvisioning.Settings.Load

/-!
# What is given for a setting

A text, a number, a truth value or the name of an option can be given for a setting in a variable,
where it is a text, and in JSON, where it is a value. Both are read as what is meant; a number that
does not fit is read from neither.

* `Given`: what is given, with its text and its values.
* `Kind.Admits`, `Kind.Fits`, `Kind.Means`: what may be given, and what it stands for.
* `ofTree_of_means`, `ofTree_of_not_fits`: reading it from a variable.
* `takes_of_means`, `refuses_of_not_fits`: reading it from JSON.
-/

namespace OutboxProvisioning.Settings

open Json (Holds)
open Utf8 (encodeChars)

/-- What is given for an item. -/
inductive Given
  | text (t : String)
  | number (n : Nat)
  | truth (b : Bool)

namespace Given

/-- The text of a variable. -/
def word : Given → String
  | .text t => t
  | .number n => toString n
  | .truth b => if b then "true" else "false"

/-- A value in JSON: a string in any spelling, a number in digits, or a truth value. -/
def Shown : Given → Bytes → Prop
  | .text t, v => Holds v (.text t)
  | .number n, v => v = encodeChars (Json.writeNat n)
  | .truth b, v => v = encodeChars (Json.writeBoolean b)

/-- How it is written in JSON. -/
def write : Given → List Char
  | .text t => Json.writeText t
  | .number n => Json.writeNat n
  | .truth b => Json.writeBoolean b

theorem shown_write (g : Given) : g.Shown (encodeChars g.write) := by
  cases g with
  | text t => exact Json.holds_text t
  | number n => rfl
  | truth b => rfl

theorem value_write (g : Given) : Json.IsValue (encodeChars g.write) := by
  cases g with
  | text t => exact Json.value_text t
  | number n => exact Json.value_nat n
  | truth b => exact Json.value_boolean b

end Given

namespace Kind

/-- What may be given for an item of this kind: a text, a number of any size, a truth value, or the
name of an option. -/
def Admits : Kind α → Given → Prop
  | .text, g => ∃ t, g = .text t
  | .number _, g => ∃ n, g = .number n
  | .truth, g => ∃ b, g = .truth b
  | .choice _ options, g => ∃ o ∈ options, g = .text o.1

/-- A number has no more bits than the item. -/
def Fits : Kind α → Given → Prop
  | .number bits, g => ∀ n, g = .number n → n < Nat.pow 2 bits
  | .text, _ | .truth, _ | .choice .., _ => True

/-- What an item of this kind holds when it is given this. -/
def Means : Kind α → Given → α → Prop
  | .text, g, t => g = .text t
  | .number bits, g, n => g = .number n ∧ n < Nat.pow 2 bits
  | .truth, g, b => g = .truth b
  | .choice _ options, g, a =>
    ∃ t, g = .text t ∧ options.find? (fun o => o.1 = t) = some (t, a)

/-- Numbers are of 64 bits at most, and options have names in small letters. -/
def Plain : Kind α → Prop
  | .number bits => bits ≤ 64
  | .choice _ options => ∀ o ∈ options, Text.lowercase o.1 = o.1
  | .text | .truth => True

instance : (k : Kind α) → Decidable k.Plain
  | .number bits => inferInstanceAs (Decidable (bits ≤ 64))
  | .choice _ options => inferInstanceAs (Decidable (∀ o ∈ options, Text.lowercase o.1 = o.1))
  | .text | .truth => inferInstanceAs (Decidable True)

variable {α : Type} {a : α} {g : Given} {k : Kind α} {v : Bytes}

theorem Means.unique {b : α} (h : k.Means g a) (h' : k.Means g b) : a = b := by
  cases k with
  | text | truth =>
    obtain rfl := h
    cases h'
    rfl
  | number bits =>
    obtain ⟨rfl, -⟩ := h
    cases h'.1
    rfl
  | choice title options =>
    obtain ⟨t, rfl, ha⟩ := h
    obtain ⟨t', ht, hb⟩ := h'
    cases ht
    rw [ha] at hb
    cases hb
    rfl

/-- **What may be given has a meaning if it fits**, and else none. -/
theorem exists_means (h : k.Admits g) : (∃ a, k.Means g a) ↔ k.Fits g := by
  cases k with
  | text | truth =>
    obtain ⟨a, rfl⟩ := h
    exact ⟨fun _ => trivial, fun _ => ⟨a, rfl⟩⟩
  | number bits =>
    obtain ⟨n, rfl⟩ := h
    constructor
    · rintro ⟨m, hm, hlt⟩ n' hn
      cases hm
      cases hn
      exact hlt
    · exact fun hn => ⟨n, rfl, hn n rfl⟩
  | choice title options =>
    obtain ⟨o, ho, rfl⟩ := h
    refine ⟨fun _ => trivial, fun _ => ?_⟩
    have hsome : (options.find? fun o' => o'.1 = o.1).isSome = true :=
      List.find?_isSome.mpr ⟨o, ho, decide_eq_true rfl⟩
    obtain ⟨⟨t, a⟩, ha⟩ := Option.isSome_iff_exists.mp hsome
    obtain rfl : t = o.1 := by simpa using List.find?_some ha
    exact ⟨a, _, rfl, ha⟩

/-- A word of letters is not the text of a number. -/
theorem toString_not_mem {ws : List String} (h : ∀ w ∈ ws, w.toList.all Char.isDigit = false)
    (n : Nat) : ws.contains (toString n) = false := by
  rw [List.contains_eq_mem, decide_eq_false_iff_not]
  intro hmem
  have hall : (toString n).toList.all Char.isDigit = true :=
    List.all_eq_true.mpr (Text.isDigit_toString n)
  rw [h _ hmem] at hall
  cases hall

theorem numberOfText_toString (n : Nat) : numberOfText (toString n) =
    if n < Nat.pow 2 64 then .ok n
      else .error (.wrongItem (.text (toString n)) "an integer" "") := by
  have hyes : ["true", "on", "yes"].contains (toString n) = false :=
    toString_not_mem (by decide) n
  have hno : ["false", "off", "no"].contains (toString n) = false :=
    toString_not_mem (by decide) n
  simp only [numberOfText, Text.lowercase_toString, hyes, hno, Bool.false_eq_true, if_false,
    Text.natural?_toString]
  by_cases h : n < Nat.pow 2 64
  · rw [if_pos h, if_pos h]
  · rw [if_neg h, if_neg h]

theorem truthOfText_word (b : Bool) : truthOfText (Given.truth b).word = .ok b := by
  have htrue : Text.lowercase "true" = "true" := by decide +kernel
  have hfalse : Text.lowercase "false" = "false" := by decide +kernel
  cases b with
  | true => simp [Given.word, truthOfText, htrue]
  | false => simp [Given.word, truthOfText, hfalse]

/-- A variable is read as what it gives means. -/
theorem ofTree_of_means (hk : k.Plain) (h : k.Means g a) : k.ofTree (.text g.word) = .ok a := by
  cases k with
  | text =>
    obtain rfl := h
    rfl
  | number bits =>
    obtain ⟨rfl, hlt⟩ := h
    have h64 : a < Nat.pow 2 64 := Nat.lt_of_lt_of_le hlt (Nat.pow_le_pow_right (by decide) hk)
    simp only [Given.word, ofTree, numberOfText_toString, if_pos h64, if_pos hlt]
  | truth =>
    obtain rfl := h
    exact truthOfText_word a
  | choice title options =>
    obtain ⟨t, rfl, ho⟩ := h
    have hlower : Text.lowercase t = t := hk _ (List.mem_of_find?_eq_some ho)
    simp only [Given.word, ofTree, findOption, hlower, ho]

/-- A variable is refused if what it gives does not fit. -/
theorem ofTree_of_not_fits (ha : k.Admits g) (h : ¬ k.Fits g) :
    ∃ e, k.ofTree (.text g.word) = .error e := by
  cases k with
  | number bits =>
    obtain ⟨n, rfl⟩ := ha
    have hn : ¬ n < Nat.pow 2 bits := by
      intro hlt
      refine h fun m hm => ?_
      cases hm
      exact hlt
    simp only [Given.word, ofTree, numberOfText_toString]
    by_cases h64 : n < Nat.pow 2 64
    · simp only [if_pos h64, if_neg hn]
      exact ⟨_, rfl⟩
    · simp only [if_neg h64]
      exact ⟨_, rfl⟩
  | _ => exact absurd trivial h

/-- A value in JSON is read as what it shows means. -/
theorem takes_of_means (hk : k.Plain) (h : k.Means g a) (hv : g.Shown v) :
    k.reader.Takes v a := by
  cases k with
  | text =>
    obtain rfl := h
    cases hv with
    | text hs => exact Json.text_takes hs
  | number bits =>
    obtain ⟨rfl, hlt⟩ := h
    obtain rfl := hv
    exact Json.nat_takes hk hlt
  | truth =>
    obtain rfl := h
    obtain rfl := hv
    exact Json.boolean_written a
  | choice title options =>
    obtain ⟨t, rfl, ho⟩ := h
    cases hv with
    | text hs => exact Json.variant_takes hs (by simpa only [beq_eq_decide] using ho)

/-- A value in JSON is refused if what it shows does not fit. -/
theorem refuses_of_not_fits (ha : k.Admits g) (h : ¬ k.Fits g) (hv : g.Shown v) :
    k.reader.Refuses v := by
  cases k with
  | number bits =>
    obtain ⟨n, rfl⟩ := ha
    obtain rfl := hv
    refine Json.nat_refuses (Nat.not_lt.mp fun hlt => h fun m hm => ?_)
    cases hm
    exact hlt
  | _ => exact absurd trivial h

end Kind

end OutboxProvisioning.Settings
