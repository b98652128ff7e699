import OutboxProvisioning.Text.Quoted

/-!
# Writing JSON

Texts without white space. In a string only the quote, the backslash and control characters
are escaped, by their short form where there is one.
-/

namespace OutboxProvisioning.Json

/-- A number of two hexadecimal digits. -/
def hexPair (n : Nat) : List Char := Nat.toDigits 16 (n / 16) ++ Nat.toDigits 16 (n % 16)

/-- One character of a string. -/
def escapeChar (c : Char) : List Char :=
  if c = '\"' then ['\\', '\"']
  else if c = '\\' then ['\\', '\\']
  else if c = '\x08' then ['\\', 'b']
  else if c = '\x0c' then ['\\', 'f']
  else if c = '\n' then ['\\', 'n']
  else if c = '\r' then ['\\', 'r']
  else if c = '\t' then ['\\', 't']
  else if c.toNat < 0x20 then ['\\', 'u', '0', '0'] ++ hexPair c.toNat
  else [c]

/-- A string. -/
def writeText (s : String) : List Char := '\"' :: s.toList.flatMap escapeChar ++ ['\"']

/-- Values with commas between them. -/
def commas : List (List Char) → List Char
  | [] => []
  | [v] => v
  | v :: vs => v ++ ',' :: commas vs

/-- An array. -/
def writeList (values : List (List Char)) : List Char := '[' :: commas values ++ [']']

/-- An object. -/
def writeObject (members : List (String × List Char)) : List Char :=
  '\x7b' :: commas (members.map fun m => writeText m.1 ++ ':' :: m.2) ++ ['\x7d']

/-- A whole number. -/
def writeNat (n : Nat) : List Char := (toString n).toList

/-- A truth value. -/
def writeBoolean (b : Bool) : List Char := if b then "true".toList else "false".toList

/-- A value that may be absent. -/
def writeOption (write : α → List Char) : Option α → List Char
  | none => "null".toList
  | some a => write a

end OutboxProvisioning.Json
