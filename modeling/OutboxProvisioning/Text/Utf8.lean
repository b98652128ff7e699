/-!
# UTF-8

Texts arrive as octets. One character is read at a time, so that a reader can say
where the first ill-formed sequence starts and how long it is.

* `Utf8.next`: the first character of a byte sequence, or what is wrong with it.
* `Utf8.decode`: a whole byte sequence, or where it stops being UTF-8.
* `Utf8.decodeLossy`: a text in any case, with marks where it is none.
* `Utf8.encode`: the octets of a text.
-/

namespace OutboxProvisioning

/-- Octets, first to last. -/
abbrev Bytes := List UInt8

namespace Utf8

/-- What stands where a character should: a sequence that no continuation mends, with the
number of octets to blame, or one that the end of input cuts short. -/
inductive Flaw
  | invalid (length : Nat)
  | incomplete
deriving DecidableEq, Repr

/-- The outcome of reading one character from a non-empty sequence. -/
inductive Next
  | char (c : Char) (rest : Bytes)
  | flaw (why : Flaw)

/-- The six low bits of a continuation octet. -/
def low (b : UInt8) : Nat := b.toNat % 64

/-- Continuation octets are `80` to `bf`. -/
def isContinuation (b : UInt8) : Bool := 0x80 ≤ b && b ≤ 0xBF

/-- The second octet allowed after a three-octet lead: no overlong form, no surrogate. -/
def secondOfThree (a b : UInt8) : Bool :=
  if a = 0xE0 then 0xA0 ≤ b && b ≤ 0xBF
  else if a = 0xED then 0x80 ≤ b && b ≤ 0x9F
  else isContinuation b

/-- The second octet allowed after a four-octet lead: no overlong form, nothing above `10ffff`. -/
def secondOfFour (a b : UInt8) : Bool :=
  if a = 0xF0 then 0x90 ≤ b && b ≤ 0xBF
  else if a = 0xF4 then 0x80 ≤ b && b ≤ 0x8F
  else isContinuation b

/-- Two octets: a lead `c2` to `df` and a continuation. -/
def nextTwo (a : UInt8) : Bytes → Next
  | [] => .flaw .incomplete
  | b :: r =>
    if isContinuation b then .char (Char.ofNat (a.toNat % 32 * 64 + low b)) r
    else .flaw (.invalid 1)

/-- Three octets: a lead `e0` to `ef`. -/
def nextThree (a : UInt8) : Bytes → Next
  | [] => .flaw .incomplete
  | b :: r =>
    if secondOfThree a b then
      match r with
      | [] => .flaw .incomplete
      | c :: r =>
        if isContinuation c then
          .char (Char.ofNat (a.toNat % 16 * 4096 + low b * 64 + low c)) r
        else .flaw (.invalid 2)
    else .flaw (.invalid 1)

/-- Four octets: a lead `f0` to `f4`. -/
def nextFour (a : UInt8) : Bytes → Next
  | [] => .flaw .incomplete
  | b :: r =>
    if secondOfFour a b then
      match r with
      | [] => .flaw .incomplete
      | c :: r =>
        if isContinuation c then
          match r with
          | [] => .flaw .incomplete
          | d :: r =>
            if isContinuation d then
              .char (Char.ofNat (a.toNat % 8 * 262144 + low b * 4096 + low c * 64 + low d)) r
            else .flaw (.invalid 3)
        else .flaw (.invalid 2)
    else .flaw (.invalid 1)

/-- The character that starts with the octet `a` and goes on in `r`. -/
def next (a : UInt8) (r : Bytes) : Next :=
  if a < 0x80 then .char (Char.ofNat a.toNat) r
  else if a < 0xC2 then .flaw (.invalid 1)
  else if a < 0xE0 then nextTwo a r
  else if a < 0xF0 then nextThree a r
  else if a < 0xF5 then nextFour a r
  else .flaw (.invalid 1)

theorem nextTwo_rest {a : UInt8} {r rest : Bytes} {c : Char} (h : nextTwo a r = .char c rest) :
    rest.length < r.length := by
  unfold nextTwo at h
  split at h
  · simp at h
  · split at h <;> simp at h
    simp [h.2]

theorem nextThree_rest {a : UInt8} {r rest : Bytes} {c : Char}
    (h : nextThree a r = .char c rest) : rest.length < r.length := by
  unfold nextThree at h
  split at h
  · simp at h
  · split at h
    · split at h
      · simp at h
      · split at h <;> simp at h
        simp only [List.length_cons, h.2]
        omega
    · simp at h

theorem nextFour_rest {a : UInt8} {r rest : Bytes} {c : Char}
    (h : nextFour a r = .char c rest) : rest.length < r.length := by
  unfold nextFour at h
  split at h
  · simp at h
  · split at h
    · split at h
      · simp at h
      · split at h
        · split at h
          · simp at h
          · split at h <;> simp at h
            simp only [List.length_cons, h.2]
            omega
        · simp at h
    · simp at h

/-- A character takes at least its first octet. -/
theorem next_rest {a : UInt8} {r rest : Bytes} {c : Char} (h : next a r = .char c rest) :
    rest.length ≤ r.length := by
  unfold next at h
  split at h
  · simp at h
    simp [h.2]
  · split at h
    · simp at h
    · split at h
      · exact Nat.le_of_lt (nextTwo_rest h)
      · split at h
        · exact Nat.le_of_lt (nextThree_rest h)
        · split at h
          · exact Nat.le_of_lt (nextFour_rest h)
          · simp at h

/-- Where a byte sequence stops being UTF-8. -/
structure Break where
  /-- How many octets before the flaw are well formed. -/
  index : Nat
  flaw : Flaw
deriving DecidableEq, Repr

/-- The words for a break in the text of a larger message. -/
def Break.message (b : Break) : String :=
  match b.flaw with
  | .invalid n => s!"invalid utf-8 sequence of {n} bytes from index {b.index}"
  | .incomplete => s!"incomplete utf-8 byte sequence from index {b.index}"

/-- Reads on after `done` octets, with the characters read so far in reverse. -/
def decodeFrom (done : Nat) (acc : List Char) : Bytes → Except Break (List Char)
  | [] => .ok acc.reverse
  | a :: r =>
    match h : next a r with
    | .flaw why => .error ⟨done, why⟩
    | .char c rest =>
      have := next_rest h
      decodeFrom (done + (r.length + 1 - rest.length)) (c :: acc) rest
termination_by s => s.length
decreasing_by simp only [List.length_cons]; omega

/-- The text that octets spell, or where they stop being UTF-8. -/
def decode (s : Bytes) : Except Break String := (decodeFrom 0 [] s).map String.ofList

/-- How many octets a flaw takes of those that are left. -/
def Flaw.size (f : Flaw) (left : Nat) : Nat :=
  match f with
  | .invalid n => n
  | .incomplete => left

/-- The characters that octets spell, with a mark for every flaw. -/
def decodeMarking : Bytes → List Char
  | [] => []
  | a :: r =>
    match h : next a r with
    | .flaw why => '\ufffd' :: decodeMarking (r.drop (why.size (r.length + 1) - 1))
    | .char c rest =>
      have := next_rest h
      c :: decodeMarking rest
termination_by s => s.length
decreasing_by all_goals simp only [List.length_cons, List.length_drop]; omega

/-- The text that octets spell, with a mark for every flaw. -/
def decodeLossy (s : Bytes) : String := String.ofList (decodeMarking s)

/-- The octets of a list of characters. -/
def encodeChars (cs : List Char) : Bytes := cs.flatMap String.utf8EncodeChar

/-- The octets of a text. -/
def encode (s : String) : Bytes := encodeChars s.toList

end Utf8

end OutboxProvisioning
