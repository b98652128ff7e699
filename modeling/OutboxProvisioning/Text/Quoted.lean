import OutboxProvisioning.Text.Printable

/-!
# Quoted texts in messages

A text inside a message stands in double quotes, with quotes and backslashes escaped, the
usual short escapes for line ends and tabs, and `\u{…}` for what cannot be shown.
-/

namespace OutboxProvisioning.Text

/-- The lower-case hexadecimal digits of a number, most significant first. -/
def hex (n : Nat) : List Char := Nat.toDigits 16 n

/-- One character as it stands between the quotes. -/
def escapeChar (c : Char) : List Char :=
  if c = '\"' then ['\\', '\"']
  else if c = '\\' then ['\\', '\\']
  else if c = '\n' then ['\\', 'n']
  else if c = '\r' then ['\\', 'r']
  else if c = '\t' then ['\\', 't']
  else if c = '\x00' then ['\\', '0']
  else if isUnprintable c then ['\\', 'u', '\x7b'] ++ hex c.toNat ++ ['\x7d']
  else [c]

/-- A text in double quotes. -/
def quoted (s : String) : String :=
  String.ofList (['\"'] ++ s.toList.flatMap escapeChar ++ ['\"'])

end OutboxProvisioning.Text
