import OutboxProvisioning.Text.Utf8
import OutboxProvisioning.Text.Quoted
import OutboxProvisioning.Decimal.Shortest

/-!
# Why a JSON text is refused

A fault is a cause and the number of octets that had not been read when it was noticed.
The place in the message counts octets: lines from 1, columns from 1, and column 0 for the
line end itself.

* `Cause.message`: the words for each cause.
* `Fault.message`: the words with the place where reading stopped.
-/

namespace OutboxProvisioning.Json

/-- What stands where a value of another type is wanted. -/
inductive Found
  | null
  | boolean (b : Bool)
  | natural (n : Nat)
  | negative (i : Int)
  | float (x : Float)
  | text (s : String)
  | sequence
  | map

/-- A floating point number in a message: positional from `1e-5` up to `1e16`. -/
def floatText (x : Float) : String :=
  let d := (Decimal.Binary.ofFloat x).shortest
  let magnitude :=
    if -5 ≤ d.leading && d.leading ≤ 15 then
      if d.exponent < 0 then d.positional else d.positional ++ ".0"
    else d.scientific
  if Decimal.isNegative x then "-" ++ magnitude else magnitude

/-- The words for what was found. -/
def Found.message : Found → String
  | .null => "null"
  | .boolean b => "boolean `" ++ toString b ++ "`"
  | .natural n => "integer `" ++ toString n ++ "`"
  | .negative i => "integer `" ++ toString i ++ "`"
  | .float x => "floating point `" ++ floatText x ++ "`"
  | .text s => "string " ++ Text.quoted s
  | .sequence => "sequence"
  | .map => "map"

/-- Why a text is refused. -/
inductive Cause
  /-- The text ends inside a string, before a value, inside an array or inside an object. -/
  | endInString
  | endBeforeValue
  | endInList
  | endInObject
  /-- A line end or another control character stands inside a string. -/
  | controlCharacter
  /-- A backslash is followed by no known escape. -/
  | badEscape
  /-- The number of an escaped character is half a pair of surrogates. -/
  | loneSurrogate
  | pairCutShort
  /-- The octets of a string are not UTF-8. -/
  | notUnicode
  | badNumber
  | numberOutOfRange
  /-- A word other than `null`, `true` or `false` begins like one of them. -/
  | unknownWord
  | noValue
  | noColon
  | noListEnd
  | noObjectEnd
  | commaBeforeEnd
  | keyNotText
  | trailing
  /-- A value of one type stands where another is wanted. -/
  | wrongType (found : Found) (wanted : String)
  /-- A number of the right kind does not fit. -/
  | wrongValue (found : Found) (wanted : String)
  /-- An array has too few elements for the positional form of a record. -/
  | tooFew (count : Nat) (wanted : String)
  | missing (name : String)
  | repeated (name : String)
  | unknownVariant (name : String) (known : List String)
  /-- The text of a value has the wrong form, for the reason given. -/
  | refused (reason : String)

/-- Two names are joined by "or"; more follow "one of". -/
def knownNames : List String → String
  | [] => "there are no variants"
  | [a] => "expected `" ++ a ++ "`"
  | [a, b] => "expected `" ++ a ++ "` or `" ++ b ++ "`"
  | names => "expected one of " ++ ", ".intercalate (names.map fun n => "`" ++ n ++ "`")

/-- The words for a cause. -/
def Cause.message : Cause → String
  | .endInString => "EOF while parsing a string"
  | .endBeforeValue => "EOF while parsing a value"
  | .endInList => "EOF while parsing a list"
  | .endInObject => "EOF while parsing an object"
  | .controlCharacter => "control character (\\u0000-\\u001F) found while parsing a string"
  | .badEscape => "invalid escape"
  | .loneSurrogate => "lone leading surrogate in hex escape"
  | .pairCutShort => "unexpected end of hex escape"
  | .notUnicode => "invalid unicode code point"
  | .badNumber => "invalid number"
  | .numberOutOfRange => "number out of range"
  | .unknownWord => "expected ident"
  | .noValue => "expected value"
  | .noColon => "expected `:`"
  | .noListEnd => "expected `,` or `]`"
  | .noObjectEnd => "expected `,` or `\x7d`"
  | .commaBeforeEnd => "trailing comma"
  | .keyNotText => "key must be a string"
  | .trailing => "trailing characters"
  | .wrongType found wanted => "invalid type: " ++ found.message ++ ", expected " ++ wanted
  | .wrongValue found wanted => "invalid value: " ++ found.message ++ ", expected " ++ wanted
  | .tooFew count wanted => "invalid length " ++ toString count ++ ", expected " ++ wanted
  | .missing name => "missing field `" ++ name ++ "`"
  | .repeated name => "duplicate field `" ++ name ++ "`"
  | .unknownVariant name known => "unknown variant `" ++ name ++ "`, " ++ knownNames known
  | .refused reason => reason

/-- A cause, and how many octets of the text were left when it was noticed. -/
structure Fault where
  cause : Cause
  left : Nat

/-- A place in a text, counted in octets. -/
structure Place where
  line : Nat
  column : Nat
deriving DecidableEq, Repr

/-- The place reached after one more octet. -/
def Place.step (p : Place) (b : UInt8) : Place :=
  if b = 0x0A then ⟨p.line + 1, 0⟩ else ⟨p.line, p.column + 1⟩

/-- The place reached after some octets. -/
def Place.after (read : Bytes) : Place := read.foldl Place.step ⟨1, 0⟩

/-- The words for a fault in a text. -/
def Fault.message (text : Bytes) (f : Fault) : String :=
  let place := Place.after (text.take (text.length - f.left))
  f.cause.message ++ s!" at line {place.line} column {place.column}"

/-- A fault noticed before the octets `rest`. -/
def stop (cause : Cause) (rest : Bytes) : Except Fault α := .error ⟨cause, rest.length⟩

/-- A fault at the first of the octets `rest`, or at the end of the text. -/
def stopAt (cause : Cause) (rest : Bytes) : Except Fault α := .error ⟨cause, rest.length - 1⟩

end OutboxProvisioning.Json
