import OutboxProvisioning.Log.Filter.Pattern.Atom

/-!
# Classes of a pattern

A class in brackets is a set of characters: single ones, ranges, named classes and other classes
side by side, with operators between such unions. What matters of a set is how deep it is nested
and, in a pattern about octets, whether it has any above ASCII.

* `Bracket.opened?`, `Bracket.add`, `Bracket.operate`, `Bracket.closed?`: a class bit by bit.
* `namedClass?`, `classMember?`: the members that a text begins with.
-/

namespace OutboxProvisioning.Log.Filter.Pattern

/-- What stands between two unions. -/
inductive Operator
  | intersection
  | difference
  | symmetricDifference
deriving DecidableEq, Repr

/-- The operator that is written with a sign twice. -/
def Operator.ofSign? (c : Char) : Option Operator :=
  if c = '&' then some .intersection
  else if c = '-' then some .difference
  else if c = '~' then some .symmetricDifference
  else none

/-- What matters of a set. -/
structure Extent where
  /-- The number of parts that stand inside each other. -/
  depth : Nat
  /-- Whether octets above ASCII are in it. They come in all together. -/
  wide : Bool

/-- A set of two sets. -/
def Operator.combine (o : Operator) (a b : Extent) : Extent :=
  ⟨max a.depth b.depth + 1,
    match o with
    | .intersection => a.wide && b.wide
    | .difference => a.wide && !b.wide
    | .symmetricDifference => a.wide != b.wide⟩

/-- A class that is open. -/
structure Bracket where
  negated : Bool
  /-- What stands before the last operator. -/
  left : Option (Operator × Extent)
  /-- How many members there are after it. -/
  count : Nat
  /-- The members after it. -/
  members : Extent

namespace Bracket

/-- A class with one more member. -/
def add (b : Bracket) (e : Extent) : Bracket :=
  { b with count := b.count + 1
           members := ⟨max b.members.depth e.depth, b.members.wide || e.wide⟩ }

/-- The members after the last operator. More than one are a part of their own. -/
def union (b : Bracket) : Extent :=
  if b.count ≤ 1 then b.members else { b.members with depth := b.members.depth + 1 }

/-- All that stands in a class. Operators take what is before them first. -/
def content (b : Bracket) : Extent :=
  match b.left with
  | none => b.union
  | some (o, e) => o.combine e b.union

/-- A class after an operator. -/
def operate (b : Bracket) (o : Operator) : Bracket := ⟨b.negated, some (o, b.content), 0, ⟨0, false⟩⟩

/-- A whole class. In a pattern about octets it has to keep to ASCII. -/
def closed? (f : Flags) (b : Bracket) : Option Extent :=
  let wide := b.negated != b.content.wide
  if !f.unicode && wide then none else some ⟨b.content.depth + 1, wide⟩

end Bracket

/-- How many hyphens come next, and what is left. -/
def leadingHyphens (spaced : Bool) : List Char → Nat × List Char
  | '-' :: cs =>
    have := length_skipBlanks_le spaced cs
    let (n, rest) := leadingHyphens spaced (skipBlanks spaced cs)
    (n + 1, rest)
  | cs => (0, cs)
termination_by cs => cs.length
decreasing_by simp only [List.length_cons]; omega

theorem leadingHyphens_rest (spaced : Bool) (cs : List Char) :
    (leadingHyphens spaced cs).2.length ≤ cs.length := by
  fun_induction leadingHyphens spaced cs with
  | case1 cs hle n rest hr ih =>
    rw [hr] at ih
    simp only [List.length_cons] at *
    omega
  | case2 => simp

/-- A caret, if it comes next, and what is left. -/
def leadingCaret (spaced : Bool) : List Char → Bool × List Char
  | '^' :: cs => (true, skipBlanks spaced cs)
  | cs => (false, cs)

theorem leadingCaret_rest (spaced : Bool) (cs : List Char) :
    (leadingCaret spaced cs).2.length ≤ cs.length := by
  unfold leadingCaret
  split
  · next cs =>
    have := length_skipBlanks_le spaced cs
    simp only [List.length_cons]
    omega
  · simp

/-- The members that may only come first, and what is left: hyphens, or else a bracket that closes
nothing. -/
def leadingMembers (spaced : Bool) (cs : List Char) : Nat × List Char :=
  match leadingHyphens spaced cs with
  | (0, ']' :: rest) => (1, skipBlanks spaced rest)
  | r => r

theorem leadingMembers_rest (spaced : Bool) (cs : List Char) :
    (leadingMembers spaced cs).2.length ≤ cs.length := by
  have h := leadingHyphens_rest spaced cs
  unfold leadingMembers
  split
  · next rest heq =>
    have := length_skipBlanks_le spaced rest
    rw [heq] at h
    simp only [List.length_cons] at h
    simp only
    omega
  · exact h

/-- A class after its opening bracket, and what is left. -/
def Bracket.opened? (f : Flags) (cs : List Char) : Option (Bracket × List Char) :=
  let (negated, afterCaret) := leadingCaret f.spaced (skipBlanks f.spaced cs)
  let (count, rest) := leadingMembers f.spaced afterCaret
  if count = 0 || (Atom.literal 0 false).fitsClass f then
    some (⟨negated, none, count, ⟨0, false⟩⟩, rest)
  else none

theorem Bracket.opened?_rest {f : Flags} {cs rest : List Char} {b : Bracket}
    (h : Bracket.opened? f cs = some (b, rest)) : rest.length ≤ cs.length := by
  have h1 := length_skipBlanks_le f.spaced cs
  have h2 := leadingCaret_rest f.spaced (skipBlanks f.spaced cs)
  have h3 := leadingMembers_rest f.spaced (leadingCaret f.spaced (skipBlanks f.spaced cs)).2
  simp only [Bracket.opened?, Option.ite_none_right_eq_some, Option.some.injEq,
    Prod.mk.injEq] at h
  rw [← h.2.2]
  omega

/-- The names of classes that stand in brackets and colons inside a class. -/
def classNames : List String :=
  ["alnum", "alpha", "ascii", "blank", "cntrl", "digit", "graph", "lower", "print", "punct",
    "space", "upper", "word", "xdigit"]

/-- Whether a named class is negated, and what is left; none if what follows the bracket is no
named class. -/
def namedClass? : List Char → Option (Bool × List Char)
  | ':' :: cs =>
    let body := cs.takeWhile (· ≠ ':')
    let negated := body.head? = some '^'
    let name := if negated then body.drop 1 else body
    if classNames.contains (String.ofList name) && (cs.drop body.length).take 2 = [':', ']'] then
      some (negated, cs.drop (body.length + 2))
    else none
  | _ => none

theorem namedClass?_rest {cs rest : List Char} {n : Bool} (h : namedClass? cs = some (n, rest)) :
    rest.length ≤ cs.length := by
  unfold namedClass? at h
  split at h
  · simp only [Option.ite_none_right_eq_some, Option.some.injEq, Prod.mk.injEq] at h
    rw [← h.2.2]
    simp only [List.length_drop, List.length_cons]
    omega
  · simp at h

/-- An atom in a class, and what is left. -/
def classAtom? (f : Flags) : List Char → Option (Atom × List Char)
  | [] => none
  | c :: cs => if c = '\\' then Atom.ofEscape? f.spaced cs else some (.literal c.toNat false, cs)

theorem classAtom?_rest {f : Flags} {cs rest : List Char} {a : Atom}
    (h : classAtom? f cs = some (a, rest)) : rest.length < cs.length := by
  unfold classAtom? at h
  split at h
  · simp at h
  · simp only [List.length_cons]
    split at h
    · have := Atom.ofEscape?_rest h
      omega
    · simp at h
      rw [← h.2]
      omega

/-- The next character that counts; the sign of a comment does not, but the comment does. -/
def nextVisible? (spaced : Bool) (cs : List Char) : Option Char :=
  if spaced then
    match cs.dropWhile Text.isBlank with
    | '#' :: rest => (rest.dropWhile Text.isBlank).head?
    | rest => rest.head?
  else cs.head?

/-- The upper end of a range after its lower end, and what is left; none if no range follows. -/
def rangeEnd? (f : Flags) : List Char → Option (Option (Atom × List Char))
  | '-' :: cs =>
    if [some ']', some '-'].contains (nextVisible? f.spaced cs) then none
    else some (classAtom? f (skipBlanks f.spaced cs))
  | _ => none

theorem rangeEnd?_rest {f : Flags} {cs rest : List Char} {a : Atom}
    (h : rangeEnd? f cs = some (some (a, rest))) : rest.length < cs.length := by
  unfold rangeEnd? at h
  split at h
  · next tail =>
    split at h
    · simp at h
    · have h1 := classAtom?_rest (Option.some.inj h)
      have h2 := length_skipBlanks_le f.spaced tail
      simp only [List.length_cons]
      omega
  · simp at h

/-- Whether two atoms are the ends of a range. -/
def isRange : Atom → Atom → Bool
  | .literal low _, .literal high _ => low ≤ high
  | _, _ => false

/-- What is left after a range that begins with an atom, or after the atom alone. -/
def afterMember? (f : Flags) (low : Atom) (cs : List Char) : Option (List Char) :=
  match rangeEnd? f cs with
  | none => if low.fitsClass f then some cs else none
  | some none => none
  | some (some (high, rest)) =>
    if isRange low high && low.fitsClass f && high.fitsClass f then some rest else none

theorem afterMember?_rest {f : Flags} {low : Atom} {cs rest : List Char}
    (h : afterMember? f low cs = some rest) : rest.length ≤ cs.length := by
  unfold afterMember? at h
  split at h
  · simp only [Option.ite_none_right_eq_some, Option.some.injEq] at h
    simp [h.2]
  · simp at h
  · next hr =>
    have := rangeEnd?_rest hr
    simp only [Option.ite_none_right_eq_some, Option.some.injEq] at h
    rw [← h.2]
    omega

/-- What is left after the member of a class that comes next: an atom or a range. -/
def classMember? (f : Flags) (cs : List Char) : Option (List Char) :=
  match classAtom? f cs with
  | none => none
  | some (low, rest) => afterMember? f low (skipBlanks f.spaced rest)

theorem classMember?_rest {f : Flags} {cs rest : List Char} (h : classMember? f cs = some rest) :
    rest.length < cs.length := by
  unfold classMember? at h
  split at h
  · simp at h
  · next low r hl =>
    have := classAtom?_rest hl
    have := length_skipBlanks_le f.spaced r
    have := afterMember?_rest h
    omega

end OutboxProvisioning.Log.Filter.Pattern
