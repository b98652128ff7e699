import OutboxProvisioning.Log.Filter.Pattern
import OutboxProvisioning.Decimal.Shortest
import OutboxProvisioning.Text.Natural

/-!
# Values in filters

The value that a field is to have: a truth value, a number, or a pattern for anything else.
Numbers are read as whole numbers of 64 bits if they can be, then as fractions.

* `Value.ofString`: the value that a text stands for.
* `Value.text`: how a value is shown.
-/

namespace OutboxProvisioning.Log.Filter

/-- A value that a field is to have. -/
inductive Value
  | boolean (b : Bool)
  | float (x : Float)
  | notANumber
  | signed (i : Int)
  | unsigned (n : Nat)
  | pattern (s : String)

namespace Value

/-- A negative whole number of 64 bits. -/
def negative? : List Char → Option Int
  | '-' :: r => ((Text.digits? r).filter (· ≤ Nat.pow 2 63)).map fun n => -(n : Int)
  | _ => none

/-- A decimal number as its digits and the exponent of the last one. -/
def decimal? (cs : List Char) : Option (Nat × Int) :=
  let whole := cs.takeWhile Char.isDigit
  let afterWhole := cs.drop whole.length
  let (fraction, rest) := match afterWhole with
    | '.' :: r => (r.takeWhile Char.isDigit, r.dropWhile Char.isDigit)
    | r => ([], r)
  let exponent : Option Int := match rest with
    | [] => some 0
    | e :: r =>
      if e = 'e' || e = 'E' then
        match r with
        | '-' :: r => (Text.digits? r).map fun n => -(n : Int)
        | '+' :: r => (Text.digits? r).map Int.ofNat
        | r => (Text.digits? r).map Int.ofNat
      else none
  match Text.digits? (whole ++ fraction), exponent with
  | some n, some e => some (n, e - fraction.length)
  | _, _ => none

/-- The binary fraction nearest to `n * 10 ^ e`. -/
def nearest (n : Nat) (e : Int) : Float :=
  let size : Int := e + (toString n).length
  if n = 0 || size < -400 then 0.0
  else if 400 < size then 1.0 / 0.0
  else if 0 ≤ e then Float.ofScientific (n * Nat.pow 10 e.toNat) false 0
  else Float.ofScientific n true (-e).toNat

/-- A number with a fraction or an exponent, or the name of an infinity or of no number. -/
def float? (cs : List Char) : Option Value :=
  let (minus, body) := match cs with
    | '-' :: r => (true, r)
    | '+' :: r => (false, r)
    | _ => (false, cs)
  let sign (x : Float) : Value := .float (if minus then -x else x)
  let word := String.ofList (body.map Char.toLower)
  if word = "nan" then some .notANumber
  else if word = "inf" || word = "infinity" then some (sign (1.0 / 0.0))
  else (decimal? body).map fun (n, e) => sign (nearest n e)

/-- The value that a text stands for. -/
def ofString (s : String) : Except Pattern.Flaw Value :=
  let cs := s.toList
  if s = "true" then .ok (.boolean true)
  else if s = "false" then .ok (.boolean false)
  else
    match Text.natural? (Nat.pow 2 64) cs, negative? cs, float? cs, Pattern.flaw? s with
    | some n, _, _, _ => .ok (.unsigned n)
    | none, some i, _, _ => .ok (.signed i)
    | none, none, some v, _ => .ok v
    | none, none, none, none => .ok (.pattern s)
    | none, none, none, some f => .error f

/-- A fraction as it is shown: never with an exponent, and without a point if it is whole. -/
def floatText (x : Float) : String :=
  let magnitude := if x.isInf then "inf" else (Decimal.Binary.ofFloat x).shortest.positional
  if Decimal.isNegative x then "-" ++ magnitude else magnitude

/-- A value as it is shown. -/
def text : Value → String
  | .boolean b => toString b
  | .float x => floatText x
  | .notANumber => "NaN"
  | .signed i => toString i
  | .unsigned n => toString n
  | .pattern s => s

/-- The place of a kind of values among the others. -/
def kind : Value → Nat
  | .boolean _ => 0
  | .float _ => 1
  | .notANumber => 2
  | .unsigned _ => 3
  | .signed _ => 4
  | .pattern _ => 5

/-- The order of values: by kind, then by what they are. -/
def order (a b : Value) : Ordering :=
  match a, b with
  | .boolean x, .boolean y => compare x y
  | .float x, .float y => if x < y then .lt else if y < x then .gt else .eq
  | .signed x, .signed y => compare x y
  | .unsigned x, .unsigned y => compare x y
  | .pattern x, .pattern y => compare x y
  | _, _ => compare a.kind b.kind

end Value

end OutboxProvisioning.Log.Filter
