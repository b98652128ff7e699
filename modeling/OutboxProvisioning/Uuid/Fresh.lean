import OutboxProvisioning.Uuid

/-!
# New identifiers

Identifiers are made from random bits, or from a time in milliseconds followed by a counter
and random bits, so that later ones are larger. Six bits are fixed: the version and the
variant.

* `Uuid.random`: version 4.
* `Uuid.timed`: version 7.
-/

namespace OutboxProvisioning

namespace Uuid

/-- Bits of which the version and the variant are set. -/
def stamped (version : Nat) (bits : BitVec 128) : Uuid :=
  let n := bits.toNat
  let head := n / Nat.pow 2 80 * Nat.pow 2 80
  let middle := n / Nat.pow 2 64 % Nat.pow 2 12 * Nat.pow 2 64
  ⟨BitVec.ofNat 128
    (head + version * Nat.pow 2 76 + middle + 2 * Nat.pow 2 62 + n % Nat.pow 2 62)⟩

/-- An identifier of random bits. -/
def random (bits : BitVec 128) : Uuid := stamped 4 bits

/-- An identifier of a time in milliseconds, a counter within it and random bits. -/
def timed (millis counter tail : Nat) : Uuid :=
  stamped 7
    (BitVec.ofNat 128 (millis % Nat.pow 2 48 * Nat.pow 2 80 +
      counter % Nat.pow 2 12 * Nat.pow 2 64 + tail % Nat.pow 2 62))

end Uuid

end OutboxProvisioning
