import OutboxProvisioning.Text.Blank

/-!
# Flags of a pattern

Letters after a question mark turn flags on, and those after a hyphen turn them off, for the rest
of the group or for a group of their own. Three of the flags matter here.

* `Flags.change?`: the flags that a list of letters leaves.
* `skipBlanks`: what is left after white space and comments, where they may stand.
-/

namespace OutboxProvisioning.Log.Filter.Pattern

/-- How a part of a pattern is to be read. -/
structure Flags where
  /-- Letters match in either case. -/
  ignoreCase : Bool
  /-- The pattern is about characters and not about octets. -/
  unicode : Bool
  /-- White space and comments are skipped. -/
  spaced : Bool
deriving DecidableEq, Repr

namespace Flags

/-- The flags at the start of a pattern. -/
def initial : Flags := ⟨false, true, false⟩

/-- The letters that name flags. -/
def letters : List Char := ['i', 'm', 's', 'U', 'u', 'x', 'R']

/-- Turns the flag with a letter on or off. -/
def set (on : Bool) (f : Flags) (letter : Char) : Flags :=
  if letter = 'i' then { f with ignoreCase := on }
  else if letter = 'u' then { f with unicode := on }
  else if letter = 'x' then { f with spaced := on }
  else f

/-- The flags after a change. Every letter may stand once, and one hyphen before some of them. -/
def change? (f : Flags) (change : List Char) : Option Flags :=
  let on := change.takeWhile (· ≠ '-')
  let off := (change.dropWhile (· ≠ '-')).drop 1
  if (on ++ off).all letters.contains ∧ (on ++ off).Nodup ∧ (off = [] → on.length = change.length)
  then some (off.foldl (set false) (on.foldl (set true) f))
  else none

/-- A change without letters is none. -/
@[simp] theorem change?_nil (f : Flags) : f.change? [] = some f := rfl

end Flags

/-- What is left after white space and comments, if they are to be skipped. A comment goes from a
number sign to the end of its line. -/
def skipBlanks (spaced : Bool) : List Char → List Char
  | [] => []
  | c :: cs =>
    if !spaced then c :: cs
    else if Text.isBlank c then skipBlanks spaced cs
    else if c = '#' then skipBlanks spaced ((cs.dropWhile (· ≠ '\n')).drop 1)
    else c :: cs
termination_by cs => cs.length
decreasing_by
  · simp
  · have := (List.dropWhile_sublist (l := cs) (· ≠ '\n')).length_le
    simp only [List.length_drop, List.length_cons]
    omega

theorem length_skipBlanks_le (spaced : Bool) (cs : List Char) :
    (skipBlanks spaced cs).length ≤ cs.length := by
  fun_induction skipBlanks spaced cs with
  | case1 => simp
  | case2 => simp
  | case3 =>
    simp only [List.length_cons]
    omega
  | case4 cs _ ih =>
    have := (List.dropWhile_sublist (l := cs) (· ≠ '\n')).length_le
    simp only [List.length_drop, List.length_cons] at *
    omega
  | case5 => simp

end OutboxProvisioning.Log.Filter.Pattern
