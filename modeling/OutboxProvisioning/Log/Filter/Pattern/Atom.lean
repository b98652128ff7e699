import OutboxProvisioning.Log.Filter.Pattern.Flags

/-!
# Atoms of a pattern

An atom is a character or an escape. The matcher knows no table of the properties of characters,
so it has neither shorthands for them nor letters of either case, unless a pattern is about
octets. A pattern about octets has to match whole characters all the same.

* `Atom.ofEscape?`: the atom after a backslash.
* `Atom.fits`, `Atom.fitsClass`: whether an atom may stand among others, or in a class.
-/

namespace OutboxProvisioning.Log.Filter.Pattern

/-- The smallest part of a pattern. -/
inductive Atom
  /-- A character; `octet` says that it was written by the number of an octet. -/
  | literal (code : Nat) (octet : Bool)
  /-- Digits, blanks or letters, or all but those. -/
  | shorthand (negated : Bool)
  | anchor
  | wordBoundary
deriving DecidableEq, Repr

/-- The value of a hexadecimal digit, in either case. -/
def hexDigit? (c : Char) : Option Nat :=
  if c.isDigit then some (c.toNat - 48)
  else if 'a' ≤ c && c ≤ 'f' then some (c.toNat - 87)
  else if 'A' ≤ c && c ≤ 'F' then some (c.toNat - 55)
  else none

/-- The number that so many hexadecimal digits go on to, `value` being that of those before, and
what is left. -/
def hexNumber? (spaced : Bool) : Nat → Nat → List Char → Option (Nat × List Char)
  | 0, value, cs => some (value, cs)
  | _ + 1, _, [] => none
  | n + 1, value, c :: cs =>
    match hexDigit? c with
    | none => none
    | some d => hexNumber? spaced n (value * 16 + d) (skipBlanks spaced cs)

theorem hexNumber?_rest {spaced : Bool} {n value m : Nat} {cs rest : List Char}
    (h : hexNumber? spaced n value cs = some (m, rest)) : rest.length ≤ cs.length := by
  fun_induction hexNumber? spaced n value cs with
  | case1 =>
    simp at h
    simp [h.2]
  | case2 => simp at h
  | case3 => simp at h
  | case4 n value c cs d hd ih =>
    have := ih h
    have := length_skipBlanks_le spaced cs
    simp only [List.length_cons]
    omega

namespace Atom

/-- A character by so many hexadecimal digits. -/
def numbered? (spaced : Bool) (width : Nat) (cs : List Char) : Option (Atom × List Char) :=
  match hexNumber? spaced width 0 (skipBlanks spaced cs) with
  | some (n, rest) => if n.isValidChar then some (.literal n (width = 2), rest) else none
  | none => none

theorem numbered?_rest {spaced : Bool} {width : Nat} {cs rest : List Char} {a : Atom}
    (h : numbered? spaced width cs = some (a, rest)) : rest.length ≤ cs.length := by
  unfold numbered? at h
  split at h
  · next hn =>
    have := hexNumber?_rest hn
    have := length_skipBlanks_le spaced cs
    split at h <;> simp at h
    rw [← h.2]
    omega
  · simp at h

/-- The atom that a letter or a sign after a backslash stands for. -/
def ofLetter? (c : Char) : Option Atom :=
  if ['d', 's', 'w'].contains c then some (.shorthand false)
  else if ['D', 'S', 'W'].contains c then some (.shorthand true)
  else if c = 'a' then some (.literal 7 false)
  else if c = 'f' then some (.literal 12 false)
  else if c = 't' then some (.literal 9 false)
  else if c = 'n' then some (.literal 10 false)
  else if c = 'r' then some (.literal 13 false)
  else if c = 'v' then some (.literal 11 false)
  else if c = 'A' || c = 'z' then some .anchor
  else if c = 'b' || c = 'B' || c = '<' || c = '>' then some .wordBoundary
  else if c.toNat < 128 && !c.isAlphanum then some (.literal c.toNat false)
  else none

/-- The atom after a backslash, and what is left. -/
def ofEscape? (spaced : Bool) : List Char → Option (Atom × List Char)
  | [] => none
  | c :: cs =>
    if c = 'x' then numbered? spaced 2 cs
    else if c = 'u' then numbered? spaced 4 cs
    else if c = 'U' then numbered? spaced 8 cs
    else (ofLetter? c).map fun a => (a, cs)

theorem ofEscape?_rest {spaced : Bool} {cs rest : List Char} {a : Atom}
    (h : ofEscape? spaced cs = some (a, rest)) : rest.length ≤ cs.length := by
  unfold ofEscape? at h
  split at h
  · simp at h
  · simp only [List.length_cons]
    split at h
    · have := numbered?_rest h
      omega
    · split at h
      · have := numbered?_rest h
        omega
      · split at h
        · have := numbered?_rest h
          omega
        · obtain ⟨b, _, hb⟩ := Option.map_eq_some_iff.1 h
          simp at hb
          simp [hb.2]

/-- Whether an atom may stand outside a class. -/
def fits (f : Flags) : Atom → Bool
  | .literal code octet => if f.unicode then !f.ignoreCase else !octet || code < 128
  | .shorthand negated => !f.unicode && !negated
  | .anchor | .wordBoundary => true

/-- Whether an atom may stand in a class. -/
def fitsClass (f : Flags) : Atom → Bool
  | .literal code _ => if f.unicode then !f.ignoreCase else code < 128
  | .shorthand negated => !f.unicode && !negated
  | .anchor | .wordBoundary => false

end Atom

end OutboxProvisioning.Log.Filter.Pattern
