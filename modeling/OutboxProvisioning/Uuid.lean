/-!
# Universally unique identifiers

128 bits, shown as five groups of lower-case hexadecimal digits and ordered as one number.

* `Uuid.toString`: the 36 characters of the hyphenated form.
* `Uuid.ofDigits`: the identifier of 32 hexadecimal digits.
-/

namespace OutboxProvisioning

/-- An identifier of 128 bits. -/
structure Uuid where
  bits : BitVec 128
deriving DecidableEq, Inhabited, Repr

namespace Uuid

/-- The digits `16 ^ n` downwards of a number: its `n` last hexadecimal digits. -/
def nibbles (n value : Nat) : List Nat :=
  match n with
  | 0 => []
  | n + 1 => value / Nat.pow 16 n % 16 :: nibbles n value

/-- The lower-case character of a hexadecimal digit. -/
def digitChar (d : Nat) : Char := if d < 10 then Char.ofNat (48 + d) else Char.ofNat (87 + d)

/-- The 32 hexadecimal digits of an identifier. -/
def digits (u : Uuid) : List Nat := nibbles 32 u.bits.toNat

/-- The identifier with these digits. -/
def ofDigits (ds : List Nat) : Uuid := ⟨BitVec.ofNat 128 (ds.foldl (fun n d => n * 16 + d) 0)⟩

/-- The characters of the hyphenated form: groups of 8, 4, 4, 4 and 12 digits. -/
def chars (u : Uuid) : List Char :=
  let cs := u.digits.map digitChar
  cs.take 8 ++ '-' :: (cs.drop 8).take 4 ++ '-' :: (cs.drop 12).take 4 ++
    '-' :: (cs.drop 16).take 4 ++ '-' :: cs.drop 20

/-- The hyphenated form. -/
def toString (u : Uuid) : String := String.ofList u.chars

instance : ToString Uuid := ⟨Uuid.toString⟩

/-- Identifiers in the order of their 128-bit numbers, which is that of their hyphenated forms. -/
instance : Ord Uuid := ⟨fun a b => compare a.bits.toNat b.bits.toNat⟩

/-- The version: the first digit of the third group. -/
def version (u : Uuid) : Nat := u.bits.toNat / Nat.pow 2 76 % 16

theorem length_nibbles (n value : Nat) : (nibbles n value).length = n := by
  induction n with
  | zero => rfl
  | succ n ih => simp [nibbles, ih]

theorem length_digits (u : Uuid) : u.digits.length = 32 := length_nibbles 32 _

end Uuid

end OutboxProvisioning
