/-!
# White space

The characters with the Unicode property White_Space, and cutting them off a text.
-/

namespace OutboxProvisioning.Text

/-- The Unicode property White_Space. -/
def isBlank (c : Char) : Bool :=
  let n := c.toNat
  (9 ≤ n && n ≤ 13) || n == 0x20 || n == 0x85 || n == 0xA0 || n == 0x1680 ||
    (0x2000 ≤ n && n ≤ 0x200A) || n == 0x2028 || n == 0x2029 || n == 0x202F || n == 0x205F ||
    n == 0x3000

/-- A list without the characters of a class at its end. -/
def dropEnd (p : Char → Bool) (cs : List Char) : List Char := (cs.reverse.dropWhile p).reverse

/-- A list of characters without white space at its ends. -/
def trimChars (cs : List Char) : List Char := dropEnd isBlank (cs.dropWhile isBlank)

/-- A text without white space at its ends. -/
def trim (s : String) : String := String.ofList (trimChars s.toList)

end OutboxProvisioning.Text
