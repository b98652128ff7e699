import OutboxProvisioning.Text.Natural
import OutboxProvisioning.Text.Split

/-!
# Numeric network addresses

* `isIpv4`: four numbers up to 255 with points between them.
* `isIpv6`: eight groups of hexadecimal digits with colons between them; two colons stand for
  groups of zeros, and the last two groups may be written as an address of the first kind.
-/

namespace OutboxProvisioning.Text

/-- The parts of a list of characters between separators. -/
def parts (sep : Char) : List Char → List (List Char)
  | [] => [[]]
  | c :: cs =>
    if c = sep then [] :: parts sep cs
    else
      match parts sep cs with
      | [] => [[c]]
      | p :: ps => (c :: p) :: ps

/-- A number up to 255 without zeros before it. -/
def isOctet (cs : List Char) : Bool :=
  (digits? cs).any fun n => n ≤ 255 && (cs.length = 1 || cs.head? ≠ some '0')

/-- Four numbers with points between them. -/
def isIpv4 (cs : List Char) : Bool :=
  let ps := parts '.' cs
  ps.length = 4 && ps.all isOctet

/-- Whether a character is a hexadecimal digit. -/
def isHexDigit (c : Char) : Bool :=
  c.isDigit || ('a' ≤ c && c ≤ 'f') || ('A' ≤ c && c ≤ 'F')

/-- One to four hexadecimal digits. -/
def isGroup (cs : List Char) : Bool := !cs.isEmpty && cs.length ≤ 4 && cs.all isHexDigit

/-- The number of groups in parts of an address, if all are groups. The last part may be an
address of four numbers if nothing follows it. -/
def groups? (isEnd : Bool) : List (List Char) → Option Nat
  | [] => some 0
  | [p] => if isGroup p then some 1 else if isEnd && isIpv4 p then some 2 else none
  | p :: ps => if isGroup p then (groups? isEnd ps).map (· + 1) else none

/-- The parts between colons of what may be empty. -/
def groupParts (cs : List Char) : List (List Char) := if cs.isEmpty then [] else parts ':' cs

/-- Eight groups, or fewer with two colons in place of the others. -/
def isIpv6 (cs : List Char) : Bool :=
  match splitFirst [':', ':'] cs with
  | none => groups? true (groupParts cs) = some 8
  | some (before, after) =>
    match groups? false (groupParts before), groups? true (groupParts after) with
    | some m, some n => m + n ≤ 7
    | _, _ => false

end OutboxProvisioning.Text
