import OutboxProvisioning.Json.Scanner

/-!
# Numbers of a JSON text

A numeral is scanned first and valued afterwards. Whole numbers of up to 64 bits keep their
value. All others become binary fractions: the leading digits that fit 64 bits, times or
divided by a power of ten, each step rounded.

* `scanNumeral`: the shape of a number.
* `Numeral.value`: what it stands for.
-/

namespace OutboxProvisioning.Json

/-- What a number of a JSON text stands for. -/
inductive Number
  | natural (n : Nat)
  | negative (i : Int)
  | float (x : Float)

/-- The number as what was found in place of something else. -/
def Number.found : Number → Found
  | .natural n => .natural n
  | .negative i => .negative i
  | .float x => .float x

/-- The digits of a number as they are written. Without a point the fraction is empty. -/
structure Numeral where
  negative : Bool
  whole : Bytes
  fraction : Bytes
  /-- Whether the exponent is negative, and its digits. -/
  exponent : Option (Bool × Bytes)

abbrev minus : UInt8 := 0x2D
abbrev plus : UInt8 := 0x2B
abbrev point : UInt8 := 0x2E

def isDigit (b : UInt8) : Bool := 0x30 ≤ b && b ≤ 0x39

/-- The letter before an exponent. -/
def isExponentMark (b : UInt8) : Bool := b == 0x65 || b == 0x45

/-- Digits, and what follows them. -/
def scanDigits (s : Bytes) : Bytes × Bytes := (s.takeWhile isDigit, s.dropWhile isDigit)

/-- The whole part: a zero alone, or digits that do not start with one. -/
def scanWhole (atEnd : Cause) : Bytes → Except Fault (Bytes × Bytes)
  | [] => stop atEnd []
  | b :: r =>
    if !isDigit b then stop .badNumber r
    else if b = 0x30 then
      if (r.head?.map isDigit).getD false then stopAt .badNumber r else .ok ([b], r)
    else .ok (b :: (scanDigits r).1, (scanDigits r).2)

/-- A point with at least one digit, or nothing. -/
def scanFraction (atEnd : Cause) : Bytes → Except Fault (Bytes × Bytes)
  | [] => .ok ([], [])
  | b :: r =>
    if b = point then
      match scanDigits r with
      | ([], []) => stopAt atEnd []
      | ([], rest) => stopAt .badNumber rest
      | found => .ok found
    else .ok ([], b :: r)

/-- An optional sign: whether it is a minus, and what follows. -/
def scanSign : Bytes → Bool × Bytes
  | [] => (false, [])
  | b :: r => if b = minus then (true, r) else if b = plus then (false, r) else (false, b :: r)

/-- An exponent with at least one digit, or nothing. -/
def scanExponent (atEnd : Cause) : Bytes → Except Fault (Option (Bool × Bytes) × Bytes)
  | [] => .ok (none, [])
  | b :: r =>
    if isExponentMark b then
      match scanSign r with
      | (_, []) => stop atEnd []
      | (negative, d :: rest) =>
        if isDigit d then .ok (some (negative, d :: (scanDigits rest).1), (scanDigits rest).2)
        else stop .badNumber rest
    else .ok (none, b :: r)

/-- A number after its sign. `atEnd` is the cause when the text ends in the middle of it. -/
def scanNumeral (atEnd : Cause) (negative : Bool) (s : Bytes) : Except Fault (Numeral × Bytes) :=
  match scanWhole atEnd s with
  | .error f => .error f
  | .ok (whole, r) =>
    match scanFraction atEnd r with
    | .error f => .error f
    | .ok (fraction, r) =>
      match scanExponent atEnd r with
      | .error f => .error f
      | .ok (exponent, r) => .ok (⟨negative, whole, fraction, exponent⟩, r)

/-- A number with its sign. -/
def scanSigned (atEnd : Cause) : Bytes → Except Fault (Numeral × Bytes)
  | [] => stop atEnd []
  | b :: r => if b = minus then scanNumeral atEnd true r else scanNumeral atEnd false (b :: r)

/-- Adds digits to `n` as long as the result is below `bound`; also gives the digits left. -/
def gather (bound n : Nat) : Bytes → Nat × Bytes
  | [] => (n, [])
  | d :: ds =>
    let m := n * 10 + (d.toNat - 0x30)
    if m < bound then gather bound m ds else (n, d :: ds)

/-- A power of ten that a binary64 number holds. -/
def powerOfTen (n : Nat) : Float := Float.ofScientific 1 false n

/-- Divides by a power of ten, in steps of at most `1e308`. -/
def divideByTens (x : Float) (n : Nat) : Float :=
  if n ≤ 308 then x / powerOfTen n
  else if x == 0.0 then x
  else divideByTens (x / powerOfTen 308) (n - 308)
termination_by n

/-- Multiplies by a power of ten, unless the product is too large. -/
def multiplyByTens? (x : Float) (n : Nat) : Option Float :=
  if n ≤ 308 then
    let y := x * powerOfTen n
    if y.isInf then none else some y
  else if x == 0.0 then some x else none

/-- `n * 10 ^ e`, unless it is too large. -/
def scale? (n : Nat) (e : Int) : Option Float :=
  if 0 ≤ e then multiplyByTens? (Float.ofNat n) e.toNat
  else some (divideByTens (Float.ofNat n) (-e).toNat)

/-- The exponents that are told apart are below this bound. -/
def exponentBound : Nat := Nat.pow 2 31

/-- What a numeral stands for, when `rest` follows it. -/
def Numeral.value (n : Numeral) (rest : Bytes) : Except Fault Number :=
  let signed (x : Float) : Number := .float (if n.negative then -x else x)
  let (whole, dropped) := gather (Nat.pow 2 64) 0 n.whole
  if dropped.isEmpty && n.fraction.isEmpty && n.exponent.isNone then
    if !n.negative then .ok (.natural whole)
    else if 0 < whole && whole ≤ Nat.pow 2 63 then .ok (.negative (-whole))
    else .ok (signed (Float.ofNat whole))
  else
    let (digits, unread) := gather (Nat.pow 2 64) whole n.fraction
    let base : Int := dropped.length - (n.fraction.length - unread.length : Nat)
    let scaled (e : Int) : Except Fault Number :=
      match scale? digits e with
      | some x => .ok (signed x)
      | none => stop .numberOutOfRange rest
    match n.exponent with
    | none => scaled base
    | some (negative, ds) =>
      match gather exponentBound 0 ds with
      | (e, []) => scaled (if negative then base - e else base + e)
      | (_, _ :: excess) =>
        if digits ≠ 0 && !negative then .error ⟨.numberOutOfRange, excess.length + rest.length⟩
        else .ok (signed 0.0)

theorem length_scanDigits_le (s : Bytes) : (scanDigits s).2.length ≤ s.length :=
  (List.dropWhile_sublist isDigit).length_le

theorem scanWhole_rest {c : Cause} {s r ds : Bytes} (h : scanWhole c s = .ok (ds, r)) :
    r.length < s.length := by
  unfold scanWhole at h
  split at h
  · simp [stop] at h
  · next b s =>
    have := length_scanDigits_le s
    split at h
    · simp [stop] at h
    · split at h
      · split at h <;> simp [stopAt] at h
        simp [h.2]
      · simp at h
        simp only [List.length_cons, ← h.2]
        omega

theorem scanFraction_rest {c : Cause} {s r ds : Bytes} (h : scanFraction c s = .ok (ds, r)) :
    r.length ≤ s.length := by
  unfold scanFraction at h
  split at h
  · simp at h
    simp [h.2]
  · next b s =>
    have := length_scanDigits_le s
    split at h
    · split at h
      · simp [stopAt] at h
      · simp [stopAt] at h
      · simp only [Except.ok.injEq] at h
        simp only [h] at this
        simp only [List.length_cons]
        omega
    · simp at h
      simp [← h.2]

theorem length_scanSign_le (s : Bytes) : (scanSign s).2.length ≤ s.length := by
  unfold scanSign
  split
  · simp
  · split
    · simp
    · split <;> simp

theorem scanExponent_rest {c : Cause} {s r : Bytes} {e : Option (Bool × Bytes)}
    (h : scanExponent c s = .ok (e, r)) : r.length ≤ s.length := by
  unfold scanExponent at h
  split at h
  · simp at h
    simp [h.2]
  · next b s =>
    have hs := length_scanSign_le s
    split at h
    · split at h
      · simp [stop] at h
      · next negative d rest hd =>
        have := length_scanDigits_le rest
        simp only [hd, List.length_cons] at hs
        split at h
        · simp at h
          simp only [List.length_cons, ← h.2]
          omega
        · simp [stop] at h
    · simp at h
      simp [← h.2]

theorem scanNumeral_rest {c : Cause} {negative : Bool} {s r : Bytes} {n : Numeral}
    (h : scanNumeral c negative s = .ok (n, r)) : r.length < s.length := by
  unfold scanNumeral at h
  split at h
  · simp at h
  · next hw =>
    split at h
    · simp at h
    · next hf =>
      split at h
      · simp at h
      · next he =>
        have := scanWhole_rest hw
        have := scanFraction_rest hf
        have := scanExponent_rest he
        simp at h
        rw [← h.2]
        omega

/-- A number takes at least one digit. -/
theorem scanSigned_rest {c : Cause} {s r : Bytes} {n : Numeral}
    (h : scanSigned c s = .ok (n, r)) : r.length < s.length := by
  unfold scanSigned at h
  split at h
  · simp [stop] at h
  · split at h
    · have := scanNumeral_rest h
      simp only [List.length_cons]
      omega
    · exact scanNumeral_rest h

end OutboxProvisioning.Json
