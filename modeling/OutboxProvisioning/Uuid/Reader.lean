import OutboxProvisioning.Uuid
import OutboxProvisioning.Text.Utf8

/-!
# Reading identifiers

Four spellings are accepted, in either case of letters: 32 digits; five groups joined by
hyphens; the groups in braces; the groups after `urn:uuid:`. Any other text is refused with
the first thing that is wrong with it, and where.

* `Uuid.ofString?`: the identifier that a text spells.
* `Uuid.flaw`: what is wrong with a text that spells none.
-/

namespace OutboxProvisioning.Uuid

/-- What is wrong with a text that spells no identifier. -/
inductive Flaw
  /-- A character that is neither a digit nor a hyphen, and the octets before it. -/
  | character (c : Char) (index : Nat)
  /-- No hyphens, and not the right number of digits. -/
  | length (found : Nat)
  | groupCount (found : Nat)
  /-- A group, counted from 0, with too few or too many digits. -/
  | groupLength (group found expected : Nat)
deriving DecidableEq, Repr

/-- The words for a flaw. -/
def Flaw.message : Flaw → String
  | .character c i => "invalid character: found `" ++ String.singleton c ++ s!"` at {i}"
  | .length n => s!"invalid length: found {n}"
  | .groupCount n => s!"invalid group count: expected 5, found {n}"
  | .groupLength g n e => s!"invalid group length in group {g}: expected {e}, found {n}"

/-- The value of a hexadecimal digit, in either case. -/
def digit? (c : Char) : Option Nat :=
  if '0' ≤ c && c ≤ '9' then some (c.toNat - 48)
  else if 'a' ≤ c && c ≤ 'f' then some (c.toNat - 87)
  else if 'A' ≤ c && c ≤ 'F' then some (c.toNat - 55)
  else none

/-- 32 digits. -/
def ofSimple? (cs : List Char) : Option Uuid :=
  if cs.length = 32 then (cs.mapM digit?).map ofDigits else none

/-- Where the hyphens of the grouped form stand. -/
def hyphens : List Nat := [8, 13, 18, 23]

/-- Five groups of 8, 4, 4, 4 and 12 digits, joined by hyphens. -/
def ofGrouped? (cs : List Char) : Option Uuid :=
  if cs.length = 36 && hyphens.all (fun i => cs[i]? == some '-') then
    ofSimple? (cs.take 8 ++ (cs.drop 9).take 4 ++ (cs.drop 14).take 4 ++ (cs.drop 19).take 4 ++
      cs.drop 24)
  else none

/-- The mark of the spelling as a name. -/
def urn : List Char := "urn:uuid:".toList

/-- A text without the mark before it, in either case of letters. -/
def stripUrn? (cs : List Char) : Option (List Char) :=
  if (cs.take urn.length).map Char.toLower = urn then some (cs.drop urn.length) else none

/-- A text without the braces around it. -/
def stripBraces? : List Char → Option (List Char)
  | [] => none
  | c :: cs => if c = '\x7b' && cs.getLast? = some '\x7d' then some cs.dropLast else none

/-- The identifier that characters spell. -/
def ofChars? (cs : List Char) : Option Uuid :=
  match cs.length with
  | 32 => ofSimple? cs
  | 36 => ofGrouped? cs
  | 38 => (stripBraces? cs).bind ofGrouped?
  | 45 => (stripUrn? cs).bind ofGrouped?
  | _ => none

/-- The identifier that a text spells. -/
def ofString? (s : String) : Option Uuid := ofChars? s.toList

/-- Octets of a list of characters in UTF-8. -/
def size (cs : List Char) : Nat := (Utf8.encodeChars cs).length

/-- The first character that is neither a digit nor a hyphen, `offset` octets on, and where the
hyphens are. -/
def scan (offset : Nat) : List Char → List Nat → Except Flaw (List Nat)
  | [], found => .ok found.reverse
  | c :: cs, found =>
    if c = '-' then scan (offset + 1) cs (offset :: found)
    else if (digit? c).isSome then scan (offset + 1) cs found
    else .error (.character c offset)

/-- The first of the four groups before the last hyphen that starts or ends in the wrong place. -/
def groupFlaw? : List (Nat × Nat × Nat) → Nat → Option Flaw
  | [], _ => none
  | (hyphen, at', expected) :: rest, group =>
    if hyphen = at' then groupFlaw? rest (group + 1)
    else some (.groupLength group (hyphen + expected - at') expected)

/-- What is wrong with a text of digits and hyphens, found `offset` octets into a text of `total`
octets. `plain` says that it could be the form without hyphens. -/
def shapeFlaw (plain : Bool) (total offset : Nat) (cs : List Char) : Flaw :=
  match scan offset cs [] with
  | .error f => f
  | .ok found =>
    if found.isEmpty && plain then .length total
    else if found.length ≠ 4 then .groupCount (found.length + 1)
    else
      let bounds := found.map (· - offset)
      match groupFlaw? (bounds.zip [(8, 8), (13, 4), (18, 4), (23, 4)]) 0 with
      | some f => f
      | none => .groupLength 4 (total - 24) 12

/-- What a text holds that has the length of the grouped form: itself, or the inside of its
braces or what follows the mark of a name. -/
def grouped? (cs : List Char) : Option (List Char) :=
  match size cs with
  | 36 => some cs
  | 38 => stripBraces? cs
  | 45 => stripUrn? cs
  | _ => none

/-- What is wrong with a text whose length fits none of the grouped spellings. Braces or the mark
of a name around it are left aside, and all but the last group is measured without them. -/
def flawOf (cs : List Char) : Flaw :=
  match stripBraces? cs, stripUrn? cs with
  | some r, _ => shapeFlaw false (size cs) 1 r
  | none, some r => shapeFlaw false (size cs) urn.length r
  | none, none => shapeFlaw true (size cs) 0 cs

/-- What is wrong with a text that spells no identifier. Where the length leaves no doubt about
the spelling, a second pair of braces or a second mark is a wrong character like any other. -/
def flaw (s : String) : Flaw :=
  if 45 < size s.toList then .length (size s.toList)
  else match grouped? s.toList with
    | some r => shapeFlaw false 36 0 r
    | none => flawOf s.toList

/-- The identifier that a text spells, or what is wrong with it. -/
def ofString (s : String) : Except Flaw Uuid :=
  match ofString? s with
  | some u => .ok u
  | none => .error (flaw s)

end OutboxProvisioning.Uuid
