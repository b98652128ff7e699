/-!
# Shortest decimal text of a binary fraction

A binary64 number stands for every real that rounds to it. Its shortest decimal is the
point of the coarsest grid `10 ^ k` that lies in that interval; of two such points the
nearer one, and the even one when both are equally near.

* `Binary.ofFloat`: significand and exponent of a finite number.
* `Binary.shortest`: the digits and the exponent of the last one.
-/

namespace OutboxProvisioning.Decimal

/-- The positive number `significand * 2 ^ exponent`. The next number below is only half as
far when `narrow` is set: the significand is the least of its binade. -/
structure Binary where
  significand : Nat
  exponent : Int
  narrow : Bool

/-- The decimal `digits * 10 ^ exponent`. -/
structure Scaled where
  digits : Nat
  exponent : Int
deriving DecidableEq, Repr

/-- The magnitude of a finite number, read off its bits. -/
def Binary.ofFloat (x : Float) : Binary :=
  let bits := x.toBits.toNat
  let biased : Nat := bits / Nat.pow 2 52 % Nat.pow 2 11
  let fraction : Nat := bits % Nat.pow 2 52
  if biased = 0 then ⟨fraction, -1074, false⟩
  else ⟨Nat.pow 2 52 + fraction, (biased : Int) - 1075, fraction = 0 && 1 < biased⟩

/-- Bounds of the reals that round to a number, over a common denominator. -/
structure Rounds where
  low : Nat
  value : Nat
  high : Nat
  denominator : Nat
  /-- The bounds themselves round to the number when its significand is even. -/
  closed : Bool

/-- Half a unit to either side, in quarters of the last place. -/
def Binary.rounds (b : Binary) : Rounds :=
  let scale := Nat.pow 2 (b.exponent - 2).toNat
  ⟨(4 * b.significand - if b.narrow then 1 else 2) * scale, 4 * b.significand * scale,
    (4 * b.significand + 2) * scale, Nat.pow 2 (2 - b.exponent).toNat, b.significand % 2 = 0⟩

/-- `t` units of the grid over the interval's denominator, where one unit is `unit / part`. -/
def Rounds.holds (i : Rounds) (unit part t : Nat) : Bool :=
  let x := t * unit * i.denominator
  if i.closed then i.low * part ≤ x && x ≤ i.high * part else i.low * part < x && x < i.high * part

/-- The grid point of the interval nearest to the value, if the grid `unit / part` has one. -/
def Rounds.nearest? (i : Rounds) (unit part : Nat) : Option Nat :=
  let step := unit * i.denominator
  let below := i.value * part / step
  let remainder := i.value * part % step
  let above := below + 1
  match i.holds unit part below, i.holds unit part above with
  | true, true =>
    if 2 * remainder < step then some below
    else if step < 2 * remainder then some above
    else if below % 2 = 0 then some below else some above
  | true, false => some below
  | false, true => some above
  | false, false => none

/-- Tries the grids `10 ^ (n - 344)`, `10 ^ (n - 345)` and so on. -/
def Rounds.coarsest (i : Rounds) : Nat → Scaled
  | 0 => ⟨0, 0⟩
  | n + 1 =>
    let k : Int := (n : Int) - 343
    match i.nearest? (Nat.pow 10 k.toNat) (Nat.pow 10 (-k).toNat) with
    | some t => ⟨t, k⟩
    | none => i.coarsest n

/-- The fewest digits that read back as the number, nearest to it among those. -/
def Binary.shortest (b : Binary) : Scaled :=
  if b.significand = 0 then ⟨0, 0⟩ else b.rounds.coarsest 653

/-- The sign bit, which zero has too. -/
def isNegative (x : Float) : Bool := x.toBits >>> 63 == 1

/-- A magnitude written out without an exponent: zeros fill up to the point on either side. -/
def Scaled.positional (d : Scaled) : String :=
  let text := toString d.digits
  if 0 ≤ d.exponent then text ++ String.ofList (List.replicate d.exponent.toNat '0')
  else
    let places := (-d.exponent).toNat
    let padded := List.replicate (places + 1 - text.length) '0' ++ text.toList
    let whole := padded.length - places
    String.ofList (padded.take whole ++ '.' :: padded.drop whole)

/-- The exponent of the first digit. -/
def Scaled.leading (d : Scaled) : Int := d.exponent + ((toString d.digits).length : Int) - 1

/-- One digit, a point, the others, and the exponent with its sign. -/
def Scaled.scientific (d : Scaled) : String :=
  let mantissa := match (toString d.digits).toList with
    | [] => ""
    | [c] => String.singleton c
    | c :: cs => String.ofList (c :: '.' :: cs)
  let mark := if 0 ≤ d.leading then "e+" else "e-"
  mantissa ++ mark ++ toString d.leading.natAbs

end OutboxProvisioning.Decimal
