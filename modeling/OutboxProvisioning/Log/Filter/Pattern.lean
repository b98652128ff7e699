import OutboxProvisioning.Log.Filter.Pattern.Bracket
import OutboxProvisioning.Text.Alphanumeric

/-!
# Patterns in filters

A field of a filter may ask for a value that matches a regular expression. Filters are only
shown and checked here, so all that matters of a pattern is whether it is well formed. A
closing brace ends the field, so no pattern holds one, and counted repetitions, which need
one, are never well formed.

Groups are read with a stack: what has been read of the groups around the current one waits there.

* `Pattern.flaw?`: what is wrong with a pattern.
-/

namespace OutboxProvisioning.Log.Filter.Pattern

/-- What is wrong with a pattern. -/
inductive Flaw
  | malformed
  /-- A word boundary, which the matcher cannot find. -/
  | wordBoundary
deriving DecidableEq, Repr

/-- The words for a flaw. -/
def Flaw.message : Flaw → String
  | .malformed => "error building NFA"
  | .wordBoundary =>
    "unsupported regex feature for DFAs: cannot build DFAs for regexes with Unicode word " ++
      "boundaries; switch to ASCII word boundaries, or heuristically enable Unicode word " ++
      "boundaries or use a different regex engine"

/-- What has been read of a group. -/
structure Level where
  flags : Flags
  /-- How many alternatives are complete, and how deep they are nested. -/
  branches : Nat
  branchDepth : Nat
  /-- How many items the last alternative has, and how deep they are nested. -/
  items : Nat
  itemDepth : Nat
  /-- The depth of the last item, if it can be repeated. -/
  last : Option Nat

namespace Level

/-- A group of which nothing has been read. -/
def start (f : Flags) : Level := ⟨f, 0, 0, 0, 0, none⟩

/-- A group with one more item. -/
def add (l : Level) (depth : Nat) : Level :=
  { l with items := l.items + 1, itemDepth := max l.itemDepth depth, last := some depth }

/-- A group with other flags from here on. That is an item, but none to be repeated. -/
def change (l : Level) (f : Flags) : Level :=
  { l with flags := f, items := l.items + 1, last := none }

/-- A group whose last item is repeated. -/
def repeated? (l : Level) : Option Level :=
  l.last.map fun d => { l with itemDepth := max l.itemDepth (d + 1), last := some (d + 1) }

/-- The depth of the last alternative. More than one item are a part of their own. -/
def branch (l : Level) : Nat := if l.items ≤ 1 then l.itemDepth else l.itemDepth + 1

/-- A group with a new alternative. -/
def alternate (l : Level) : Level :=
  { start l.flags with branches := l.branches + 1, branchDepth := max l.branchDepth l.branch }

/-- The depth of a group's content. More than one alternative are a part of their own. -/
def depth (l : Level) : Nat :=
  if l.branches = 0 then l.branch else max l.branchDepth l.branch + 1

end Level

/-- How deep the parts of a pattern may be nested. -/
def deepest : Nat := 250

/-- What opens at a parenthesis. -/
inductive Opening
  | group (f : Flags)
  | named (name : List Char)
  /-- Nothing: other flags hold from here on. -/
  | change (f : Flags)

/-- Whether a group can have a name. -/
def isGroupName : List Char → Bool
  | [] => false
  | c :: cs =>
    (c = '_' || Text.isAlphabetic c) &&
      cs.all fun c => c = '_' || c = '.' || c = '[' || c = ']' || Text.isAlphanumeric c

/-- A name up to the sign after it. -/
def groupName? (cs : List Char) : Option (Opening × List Char) :=
  let name := cs.takeWhile (· ≠ '>')
  match cs.drop name.length with
  | [] => none
  | _ :: rest => if isGroupName name then some (.named name, rest) else none

/-- A change of flags up to a colon, which opens a group, or up to a parenthesis, which opens
none. -/
def flagGroup? (f : Flags) (cs : List Char) : Option (Opening × List Char) :=
  let change := cs.takeWhile fun c => c ≠ ':' && c ≠ ')'
  match cs.drop change.length, f.change? change with
  | c :: rest, some g =>
    if c = ':' then some (.group g, rest)
    else if change.isEmpty then none
    else some (.change g, rest)
  | _, _ => none

/-- What opens at a parenthesis, and what is left. -/
def opening? (f : Flags) (cs : List Char) : Option (Opening × List Char) :=
  match skipBlanks f.spaced cs with
  | '?' :: 'P' :: '<' :: rest => groupName? rest
  | '?' :: '<' :: rest => groupName? rest
  | '?' :: rest => flagGroup? f rest
  | rest => some (.group f, rest)

theorem groupName?_rest {cs rest : List Char} {o : Opening}
    (h : groupName? cs = some (o, rest)) : rest.length ≤ cs.length := by
  have hd := List.length_drop (i := (cs.takeWhile (· ≠ '>')).length) (l := cs)
  unfold groupName? at h
  simp only at h
  split at h
  · simp at h
  · next hr =>
    simp only [Option.ite_none_right_eq_some, Option.some.injEq, Prod.mk.injEq] at h
    rw [hr, List.length_cons] at hd
    rw [← h.2.2]
    omega

theorem flagGroup?_rest {f : Flags} {cs rest : List Char} {o : Opening}
    (h : flagGroup? f cs = some (o, rest)) : rest.length ≤ cs.length := by
  have hd := List.length_drop (i := (cs.takeWhile fun c => c ≠ ':' && c ≠ ')').length) (l := cs)
  unfold flagGroup? at h
  simp only at h
  split at h
  · next hr _ =>
    rw [hr, List.length_cons] at hd
    split at h
    · simp at h
      rw [← h.2]
      omega
    · simp only [Option.ite_none_left_eq_some, Option.some.injEq, Prod.mk.injEq] at h
      rw [← h.2.2]
      omega
  · simp at h

theorem opening?_rest {f : Flags} {cs rest : List Char} {o : Opening}
    (h : opening? f cs = some (o, rest)) : rest.length ≤ cs.length := by
  have hs := length_skipBlanks_le f.spaced cs
  unfold opening? at h
  split at h
  · next hr =>
    have := groupName?_rest h
    rw [hr] at hs
    simp only [List.length_cons] at hs
    omega
  · next hr =>
    have := groupName?_rest h
    rw [hr] at hs
    simp only [List.length_cons] at hs
    omega
  · next hr =>
    have := flagGroup?_rest h
    rw [hr] at hs
    simp only [List.length_cons] at hs
    omega
  · simp at h
    rw [← h.2]
    exact hs

/-- Where the reading of a pattern stands. -/
structure Reading where
  level : Level
  /-- The groups around the current one. -/
  outer : List Level
  /-- The classes that are open. -/
  brackets : List Bracket
  /-- The names of groups so far. -/
  names : List (List Char)
  /-- Whether there has been a word boundary that the matcher cannot find. -/
  boundary : Bool

namespace Reading

/-- Before the first character. -/
def start : Reading := ⟨.start .initial, [], [], [], false⟩

/-- Goes into a group. -/
def enter (p : Reading) (f : Flags) : Reading :=
  { p with level := .start f, outer := p.level :: p.outer }

/-- Goes out of a group, which is an item of the one around it. -/
def leave? (p : Reading) : Option Reading :=
  match p.outer with
  | [] => none
  | l :: ls => some { p with level := l.add (p.level.depth + 1), outer := ls }

/-- Takes what opens at a parenthesis. Names are given once. -/
def open? (p : Reading) : Opening → Option Reading
  | .group f => some (p.enter f)
  | .change f => some { p with level := p.level.change f }
  | .named name =>
    if p.names.contains name then none
    else some { p.enter p.level.flags with names := name :: p.names }

/-- Takes an atom. -/
def atom? (p : Reading) (a : Atom) : Option Reading :=
  if a.fits p.level.flags then
    some { p with level := p.level.add 0
                  boundary := p.boundary || (a == .wordBoundary && p.level.flags.unicode) }
  else none

/-- Takes a character outside of classes, and says what is left of those after it. -/
def outside? (p : Reading) (c : Char) (cs : List Char) : Option (Reading × List Char) :=
  let f := p.level.flags
  if c = '\\' then
    match Atom.ofEscape? f.spaced cs with
    | some (a, rest) => (p.atom? a).map fun q => (q, rest)
    | none => none
  else if c = '[' then
    match Bracket.opened? f cs with
    | some (b, rest) => some ({ p with brackets := [b] }, rest)
    | none => none
  else if c = '(' then
    match opening? f cs with
    | some (o, rest) => (p.open? o).map fun q => (q, rest)
    | none => none
  else if c = ')' then p.leave?.map fun q => (q, cs)
  else if c = '|' then some ({ p with level := p.level.alternate }, cs)
  else if c = '*' || c = '+' || c = '?' then
    p.level.repeated?.map fun l =>
      ({ p with level := l }, if cs.head? = some '?' then cs.drop 1 else cs)
  else if c = '\x7b' then none
  else if c = '.' then
    if f.unicode then some ({ p with level := p.level.add 0 }, cs) else none
  else (p.atom? (if c = '^' || c = '$' then .anchor else .literal c.toNat false)).map fun q => (q, cs)

/-- Goes out of a class, which is a member of the one around it or an item. -/
def closeBracket? (p : Reading) (b : Bracket) (around : List Bracket) : Option Reading :=
  (b.closed? p.level.flags).map fun e =>
    match around with
    | [] => { p with level := p.level.add e.depth, brackets := [] }
    | a :: rest => { p with brackets := a.add e :: rest }

/-- Takes a character inside the class `b`, and says what is left of those after it. -/
def inside? (p : Reading) (b : Bracket) (around : List Bracket) (c : Char) (cs : List Char) :
    Option (Reading × List Char) :=
  let f := p.level.flags
  if c = '[' then
    match namedClass? cs with
    | some (negated, rest) =>
      if f.unicode && f.ignoreCase then none
      else some ({ p with brackets := b.add ⟨0, negated⟩ :: around }, rest)
    | none => (Bracket.opened? f cs).map fun (n, rest) =>
      ({ p with brackets := n :: b :: around }, rest)
  else if c = ']' then (p.closeBracket? b around).map fun q => (q, cs)
  else
    match Operator.ofSign? c, decide (cs.head? = some c) with
    | some o, true => some ({ p with brackets := b.operate o :: around }, cs.drop 1)
    | _, _ => (classMember? f (c :: cs)).map fun rest =>
      ({ p with brackets := b.add ⟨0, false⟩ :: around }, rest)

/-- Takes a character, and says what is left of those after it. -/
def next? (p : Reading) (c : Char) (cs : List Char) : Option (Reading × List Char) :=
  match p.brackets with
  | [] => p.outside? c cs
  | b :: around => p.inside? b around c cs

/-- What is wrong with a pattern that ends here. -/
def finish (p : Reading) : Option Flaw :=
  if !p.outer.isEmpty || !p.brackets.isEmpty || deepest < p.level.depth then some .malformed
  else if p.boundary then some .wordBoundary
  else none

theorem outside?_rest {p q : Reading} {c : Char} {cs rest : List Char}
    (h : p.outside? c cs = some (q, rest)) : rest.length ≤ cs.length := by
  have whole : ∀ {o : Option Reading}, (o.map fun q => (q, cs)) = some (q, rest) →
      rest.length ≤ cs.length := by
    intro o ho
    obtain ⟨r, _, hr⟩ := Option.map_eq_some_iff.1 ho
    simp at hr
    simp [hr.2]
  unfold outside? at h
  simp only at h
  split at h
  · split at h
    · next he =>
      have := Atom.ofEscape?_rest he
      obtain ⟨r, _, hr⟩ := Option.map_eq_some_iff.1 h
      simp at hr
      rw [← hr.2]
      exact this
    · simp at h
  · split at h
    · split at h
      · next hb =>
        have := Bracket.opened?_rest hb
        simp at h
        rw [← h.2]
        exact this
      · simp at h
    · split at h
      · split at h
        · next ho =>
          have := opening?_rest ho
          obtain ⟨r, _, hr⟩ := Option.map_eq_some_iff.1 h
          simp at hr
          rw [← hr.2]
          exact this
        · simp at h
      · split at h
        · exact whole h
        · split at h
          · simp at h
            simp [h.2]
          · split at h
            · obtain ⟨l, _, hl⟩ := Option.map_eq_some_iff.1 h
              simp only [Prod.mk.injEq] at hl
              rw [← hl.2]
              split
              · simp
              · simp
            · split at h
              · simp at h
              · split at h
                · simp only [Option.ite_none_right_eq_some, Option.some.injEq,
                    Prod.mk.injEq] at h
                  simp [h.2.2]
                · exact whole h

theorem inside?_rest {p q : Reading} {b : Bracket} {around : List Bracket} {c : Char}
    {cs rest : List Char} (h : p.inside? b around c cs = some (q, rest)) :
    rest.length ≤ cs.length := by
  unfold inside? at h
  simp only at h
  split at h
  · split at h
    · next hn =>
      have := namedClass?_rest hn
      simp only [Option.ite_none_left_eq_some, Option.some.injEq, Prod.mk.injEq] at h
      rw [← h.2.2]
      exact this
    · obtain ⟨⟨n, r⟩, hb, hr⟩ := Option.map_eq_some_iff.1 h
      have := Bracket.opened?_rest hb
      simp at hr
      rw [← hr.2]
      exact this
  · split at h
    · obtain ⟨r, _, hr⟩ := Option.map_eq_some_iff.1 h
      simp at hr
      simp [hr.2]
    · split at h
      · simp at h
        rw [← h.2]
        simp
      · obtain ⟨r, hm, hr⟩ := Option.map_eq_some_iff.1 h
        have := classMember?_rest hm
        simp only [List.length_cons] at this
        simp at hr
        rw [← hr.2]
        omega

/-- A step never gives back more than there was. -/
theorem next?_rest {p q : Reading} {c : Char} {cs rest : List Char}
    (h : p.next? c cs = some (q, rest)) : rest.length ≤ cs.length := by
  unfold next? at h
  split at h
  · exact outside?_rest h
  · exact inside?_rest h

/-- What is wrong with a pattern of which so much has been read. -/
def run (p : Reading) (cs : List Char) : Option Flaw :=
  match _hs : skipBlanks p.level.flags.spaced cs with
  | [] => p.finish
  | c :: tail =>
    match _hn : p.next? c tail with
    | none => some .malformed
    | some (q, rest) => run q rest
termination_by cs.length
decreasing_by
  have h1 := length_skipBlanks_le p.level.flags.spaced cs
  have h2 := next?_rest _hn
  rw [_hs, List.length_cons] at h1
  omega

end Reading

/-- What is wrong with a pattern. -/
def flaw? (s : String) : Option Flaw := Reading.start.run s.toList

end OutboxProvisioning.Log.Filter.Pattern
