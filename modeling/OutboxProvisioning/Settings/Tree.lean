import OutboxProvisioning.Table
import OutboxProvisioning.Text.Natural

/-!
# Settings by path

Texts are put into a tree one by one, each under a path of names and indices. What is in the
way is replaced.

* `Path.ofString?`: the path that a key spells.
* `Tree.assign`: a tree with something put under a path.
-/

namespace OutboxProvisioning.Settings

/-- Texts under names and indices. -/
inductive Tree
  | nothing
  | text (s : String)
  | list (items : List Tree)
  | table (entries : List (String × Tree))

/-- One step of a path. -/
inductive Step
  | child (name : String)
  /-- An index, which counts from the end if it is negative. -/
  | index (i : Int)
deriving DecidableEq, Repr

namespace Path

/-- Whether a character may stand in a name. -/
def inName (c : Char) : Bool := c.isAlphanum || c = ' ' || c = '_' || c = '-'

/-- An index after its opening bracket, and how many characters it takes with the closing one.
Blanks may stand around it, and a minus before it. -/
def index? (cs : List Char) : Option (Int × Nat) :=
  let blanks := (cs.takeWhile fun c => c = ' ' || c = '\t').length
  let body := cs.drop blanks
  let sign := if body.head? = some '-' then 1 else 0
  let digits := (body.drop sign).takeWhile Char.isDigit
  let rest := body.drop (sign + digits.length)
  let after := (rest.takeWhile fun c => c = ' ' || c = '\t').length
  match Text.digits? digits with
  | none => none
  | some n =>
    let i : Int := if body.head? = some '-' then -n else n
    if (rest.drop after).head? = some ']' && -(Nat.pow 2 63 : Int) ≤ i && i < Nat.pow 2 63 then
      some (i, blanks + sign + digits.length + after + 1)
    else none

/-- The steps after the first name. -/
def steps? : List Char → Option (List Step)
  | [] => some []
  | c :: cs =>
    if c = '.' then
      let name := cs.takeWhile inName
      if name.isEmpty then none
      else (steps? (cs.drop name.length)).map (.child (String.ofList name) :: ·)
    else if c = '[' then
      match index? cs with
      | none => none
      | some (i, n) => (steps? (cs.drop n)).map (.index i :: ·)
    else none
termination_by cs => cs.length
decreasing_by all_goals simp only [List.length_drop, List.length_cons]; omega

/-- The path that a key spells. -/
def ofString? (key : String) : Option (List Step) :=
  let cs := key.toList
  let name := cs.takeWhile inName
  if name.isEmpty then none
  else (steps? (cs.drop name.length)).map (.child (String.ofList name) :: ·)

/-- The path of a key: the key itself is a name if it spells none. -/
def ofKey (key : String) : List Step := (ofString? key).getD [.child key]

end Path

namespace Tree

/-- No settings. -/
def empty : Tree := .table []

/-- What stands under names. -/
def entries : Tree → List (String × Tree)
  | .table es => es
  | _ => []

/-- What stands under indices. -/
def items : Tree → List Tree
  | .list ts => ts
  | _ => []

/-- No list can have more items. -/
def longest : Nat := Nat.pow 2 48

/-- The place of an index in a list, if it is not before the first and a list can be so long. -/
def position? (i : Int) (length : Nat) : Option Nat :=
  let n := if 0 ≤ i then i else length + i
  if 0 ≤ n && n < longest then some n.toNat else none

/-- What stands under a name. -/
def child (t : Tree) (name : String) : Tree :=
  ((t.entries.find? fun e => e.1 = name).map Prod.snd).getD .nothing

/-- A tree with something put under a path. Lists are filled up with nothing; there is none when an
index has no place. -/
def assign (new : Tree) : List Step → Tree → Option Tree
  | [], _ => some new
  | .child name :: rest, t =>
    (assign new rest (t.child name)).map fun u => .table (putEntry name u t.entries)
  | .index i :: rest, t =>
    match position? i t.items.length with
    | none => none
    | some n =>
      let items := t.items ++ List.replicate (n + 1 - t.items.length) .nothing
      (assign new rest (items.getD n .nothing)).map fun u => .list (items.set n u)

end Tree

end OutboxProvisioning.Settings
