import OutboxProvisioning.Text.Utf8
import OutboxProvisioning.Variables
import OutboxProvisioning.Variables.Assignment

/-!
# Files of variables

A file holds one assignment a line; a line goes on as long as quotes are open in it. The lines
are read up to the first bad one, and a name that has a text keeps it.

* `File.lines`: the lines of a file.
* `Variables.load`: variables with those of a file.
-/

namespace OutboxProvisioning.Variables

namespace File

/-- What a character stands in. -/
inductive Place
  | plain
  | afterBlank
  | escape
  | strong
  | strongEscape
  | weak
  | weakEscape
deriving DecidableEq, Repr

/-- What opens at a character outside quotes. -/
def Place.opened (c : Char) : Place :=
  if c = '\\' then .escape
  else if c = '\"' then .weak
  else if c = '\'' then .strong
  else .plain

/-- The place after a character; none when a comment begins there. -/
def Place.next (p : Place) (c : Char) : Option Place :=
  match p with
  | .plain =>
    some (if Text.isBlank c && c ≠ '\n' && c ≠ '\r' then .afterBlank else Place.opened c)
  | .afterBlank => if c = '#' then none else some (Place.opened c)
  | .escape => some .plain
  | .strong => some (if c = '\\' then .strongEscape else if c = '\'' then .plain else .strong)
  | .strongEscape => some .strong
  | .weak => some (if c = '\\' then .weakEscape else if c = '\"' then .plain else .weak)
  | .weakEscape => some .weak

/-- The characters of a line before a comment, and the place at its end; none with a comment. -/
def scan (p : Place) : List Char → List Char × Option Place
  | [] => ([], some p)
  | c :: cs =>
    match p.next c with
    | none => ([], none)
    | some q => ((c :: (scan q cs).1), (scan q cs).2)

/-- A line without its end. -/
def dropLineEnd (cs : List Char) : List Char :=
  match cs.reverse with
  | '\n' :: '\r' :: r => r.reverse
  | '\n' :: r => r.reverse
  | _ => cs

/-- The octets of a file line by line, each with its end. -/
def splitLines : Bytes → List Bytes
  | [] => []
  | b :: r =>
    if b = 10 then [b] :: splitLines r
    else
      match splitLines r with
      | [] => [[b]]
      | line :: rest => (b :: line) :: rest

/-- Lines put together where quotes are open at an end, `carry` being open at `p`. Nothing stands
for a bad line: one that is no text, or whose quotes the end of the file leaves open. -/
def joinLines (carry : List Char) (p : Place) : List Bytes → List (Option (List Char))
  | [] => if p = .plain then [] else [none]
  | b :: rest =>
    match Utf8.decode b with
    | .error _ => [none]
    | .ok s =>
      let line := carry ++ s.toList
      if (line.dropWhile Text.isBlank).head? = some '#' then some [] :: joinLines [] .plain rest
      else
        match scan p s.toList with
        | (kept, none) => some (carry ++ kept) :: joinLines [] .plain rest
        | (_, some .plain) => some (dropLineEnd line) :: joinLines [] .plain rest
        | (_, some q) => joinLines line q rest

/-- A file without the mark of its encoding. -/
def withoutMark : Bytes → Bytes
  | 0xEF :: 0xBB :: 0xBF :: r => r
  | s => s

/-- The lines of a file. -/
def lines (file : Bytes) : List (Option (List Char)) :=
  joinLines [] .plain (splitLines (withoutMark file))

end File

/-- The text of a name in a value: what the variables say, or else what an earlier line said. -/
def textOf (vs earlier : Variables) (name : String) : String :=
  match vs.afterName? name with
  | some v => v
  | none => (earlier.find? name).getD ""

/-- Reads lines up to the first bad one. What earlier lines said is kept with the last first. A
text that holds the character zero cannot be given to a name, and ends the program. -/
def loadLines (vs earlier : Variables) : List (Option (List Char)) → Option Variables
  | [] => some vs
  | none :: _ => some vs
  | some line :: rest =>
    match Assignment.ofLine (textOf vs earlier) line with
    | .error _ => some vs
    | .ok none => loadLines vs earlier rest
    | .ok (some a) =>
      if (vs.find? a.name).isNone && a.value.toList.contains '\x00' then none
      else loadLines (vs.define a.name a.value) ((a.name, a.value) :: earlier) rest

/-- Variables with those of a file. -/
def load (vs : Variables) (file : Bytes) : Option Variables := loadLines vs [] (File.lines file)

end OutboxProvisioning.Variables
