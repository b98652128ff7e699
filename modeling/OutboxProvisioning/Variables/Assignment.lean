import OutboxProvisioning.Text.Alphanumeric
import OutboxProvisioning.Text.Blank

/-!
# Assignments

One line gives a text to a name: `name=value`, perhaps with `export` before it. Quotes keep
blanks, a backslash keeps the character after it, and `$name` stands for the text of a name.

* `Assignment.ofLine`: the assignment of a line, if it is one.
* `Assignment.readValue`: what a value stands for.
-/

namespace OutboxProvisioning.Variables

/-- A name and the text that it gets. -/
structure Assignment where
  name : String
  value : String
deriving DecidableEq, Repr

namespace Assignment

/-- Where the reading of a value stands. -/
inductive Phase
  | plain
  /-- In single quotes, where all characters stand for themselves. -/
  | strong
  /-- In double quotes. -/
  | weak
  /-- After a backslash. -/
  | escaped (inQuotes : Bool)
  /-- In the name after a dollar sign, with what has been read of it. -/
  | name (inQuotes : Bool) (seen : List Char)
  /-- In a name in braces. -/
  | braced (inQuotes : Bool) (seen : List Char)
  /-- After the value, where only blanks and a comment may follow. -/
  | ended

/-- Out of an escape or a name. -/
def Phase.outer (inQuotes : Bool) : Phase := if inQuotes then .weak else .plain

/-- The character that a backslash and `c` stand for. -/
def unescape? (c : Char) : Option Char :=
  if c = 'n' then some '\n'
  else if c = '\\' || c = '\'' || c = '\"' || c = '$' || c = ' ' then some c
  else none

/-- What the end of a value makes of it: quotes and braces have to be closed. -/
def finish (texts : String → String) (phase : Phase) (out : List Char) : Option String :=
  match phase with
  | .strong | .weak | .escaped true | .name true _ | .braced _ _ => none
  | .name false seen => some (String.ofList (out ++ (texts (String.ofList seen)).toList))
  | .plain | .escaped false | .ended => some (String.ofList out)

/-- What a value stands for, `out` being what has been read of it. `texts` gives the text of a
name, which is empty if it has none. -/
def readValue (texts : String → String) (phase : Phase) (out : List Char) :
    List Char → Option String
  | [] => finish texts phase out
  | c :: cs =>
    let named (seen : List Char) : List Char := out ++ (texts (String.ofList seen)).toList
    match phase with
    | .ended =>
      if c = ' ' || c = '\t' then readValue texts .ended out cs
      else if c = '#' then some (String.ofList out)
      else none
    | .escaped inQuotes =>
      match unescape? c with
      | some d => readValue texts (.outer inQuotes) (out ++ [d]) cs
      | none => none
    | .strong =>
      if c = '\'' then readValue texts .plain out cs else readValue texts .strong (out ++ [c]) cs
    | .name inQuotes seen =>
      if Text.isAlphanumeric c then readValue texts (.name inQuotes (seen ++ [c])) out cs
      else if c = '\x7b' && seen.isEmpty then readValue texts (.braced inQuotes []) out cs
      else if c = '$' then readValue texts (.name inQuotes []) (named seen) cs
      else readValue texts (.outer inQuotes) (named seen ++ [c]) cs
    | .braced inQuotes seen =>
      if c = '\x7d' then readValue texts (.outer inQuotes) (named seen) cs
      else readValue texts (.braced inQuotes (seen ++ [c])) out cs
    | .weak =>
      if c = '$' then readValue texts (.name true []) out cs
      else if c = '\"' then readValue texts .plain out cs
      else if c = '\\' then readValue texts (.escaped true) out cs
      else readValue texts .weak (out ++ [c]) cs
    | .plain =>
      if c = '$' then readValue texts (.name false []) out cs
      else if c = '\'' then readValue texts .strong out cs
      else if c = '\"' then readValue texts .weak out cs
      else if c = '\\' then readValue texts (.escaped false) out cs
      else if c = ' ' || c = '\t' then readValue texts .ended out cs
      else readValue texts .plain (out ++ [c]) cs

/-- Whether a name may begin with a character. -/
def startsName (c : Char) : Bool := c.isAlpha || c = '_'

/-- Whether a character may stand in a name. -/
def inName (c : Char) : Bool := c.isAlphanum || c = '_' || c = '.'

/-- A name, and what follows it and the blanks after it. -/
def scanName (cs : List Char) : Option (String × List Char) :=
  if (cs.head?.map startsName).getD false then
    some (String.ofList (cs.takeWhile inName), (cs.dropWhile inName).dropWhile Text.isBlank)
  else none

/-- What follows an equals sign. -/
def scanEquals : List Char → Option (List Char)
  | '=' :: r => some r
  | _ => none

/-- A name, and what follows the equals sign after it. The word `export` may come before a name,
or be one. -/
def scanTarget (cs : List Char) : Option (String × List Char) :=
  match scanName cs with
  | none => none
  | some (name, rest) =>
    match scanEquals rest with
    | some r => some (name, r)
    | none =>
      if name = "export" then
        match scanName rest with
        | none => none
        | some (name, rest) => (scanEquals rest).map fun r => (name, r)
      else none

/-- Whether nothing but a comment is left. -/
def isBare (cs : List Char) : Bool := cs.isEmpty || cs.head? = some '#'

/-- The assignment of a line: none if the line is blank or a comment. A line that is neither is
bad. -/
def ofLine (texts : String → String) (line : List Char) : Except Unit (Option Assignment) :=
  let cs := Text.trimChars line
  if isBare cs then .ok none
  else
    match scanTarget cs with
    | none => .error ()
    | some (name, rest) =>
      let rest := rest.dropWhile Text.isBlank
      if isBare rest then .ok (some ⟨name, ""⟩)
      else
        match readValue texts .plain [] rest with
        | some v => .ok (some ⟨name, v⟩)
        | none => .error ()

end Assignment

end OutboxProvisioning.Variables
