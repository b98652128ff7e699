import OutboxProvisioning.Json.Fault

/-!
# Words and strings of a JSON text

The smallest readers. Each takes the octets still to be read and gives back what is left.
A string is either read, with its escapes undone and its octets checked, or skipped, with
only its shape checked.

* `scanText`: a string after its opening quote.
* `skipText`: the same, when nobody wants the text.
* `scanWord`: the rest of `null`, `true` or `false`.
-/

namespace OutboxProvisioning.Json

abbrev quote : UInt8 := 0x22
abbrev backslash : UInt8 := 0x5C
abbrev comma : UInt8 := 0x2C
abbrev colon : UInt8 := 0x3A
abbrev openList : UInt8 := 0x5B
abbrev closeList : UInt8 := 0x5D
abbrev openObject : UInt8 := 0x7B
abbrev closeObject : UInt8 := 0x7D

/-- White space between tokens: space, tab, line feed, carriage return. -/
def isSpace (b : UInt8) : Bool := b == 0x20 || b == 0x0A || b == 0x09 || b == 0x0D

/-- What is left after white space. -/
def skipSpace (s : Bytes) : Bytes := s.dropWhile isSpace

theorem length_skipSpace_le (s : Bytes) : (skipSpace s).length ≤ s.length :=
  (List.dropWhile_sublist isSpace).length_le

/-- Expects the octets of a word. -/
def scanWord : Bytes → Bytes → Except Fault Bytes
  | [], s => .ok s
  | _ :: _, [] => stop .endBeforeValue []
  | c :: word, b :: r => if b = c then scanWord word r else stop .unknownWord r

/-- The value of a hexadecimal digit, in either case. -/
def hexValue? (b : UInt8) : Option Nat :=
  if 0x30 ≤ b && b ≤ 0x39 then some (b.toNat - 0x30)
  else if 0x41 ≤ b && b ≤ 0x46 then some (b.toNat - 0x37)
  else if 0x61 ≤ b && b ≤ 0x66 then some (b.toNat - 0x57)
  else none

/-- Four hexadecimal digits. -/
def scanHex : Bytes → Except Fault (Nat × Bytes)
  | a :: b :: c :: d :: r =>
    match hexValue? a, hexValue? b, hexValue? c, hexValue? d with
    | some a, some b, some c, some d => .ok (((a * 16 + b) * 16 + c) * 16 + d, r)
    | _, _, _, _ => stop .badEscape r
  | _ => stop .endInString []

/-- The characters that a backslash and one letter stand for. -/
def shortEscape? (b : UInt8) : Option Char :=
  if b = quote then some '\"'
  else if b = backslash then some '\\'
  else if b = 0x2F then some '/'
  else if b = 0x62 then some '\x08'
  else if b = 0x66 then some '\x0c'
  else if b = 0x6E then some '\n'
  else if b = 0x72 then some '\r'
  else if b = 0x74 then some '\t'
  else none

/-- The first half of a surrogate pair. -/
def isHighSurrogate (n : Nat) : Bool := 0xD800 ≤ n && n ≤ 0xDBFF

/-- The second half of a surrogate pair. -/
def isLowSurrogate (n : Nat) : Bool := 0xDC00 ≤ n && n ≤ 0xDFFF

/-- The second half of a pair, after the first half `high`. -/
def scanLowHalf (high : Nat) : Bytes → Except Fault (Char × Bytes)
  | [] => stop .endInString []
  | b :: r =>
    if b = backslash then
      match r with
      | [] => stop .endInString []
      | u :: r =>
        if u = 0x75 then
          match scanHex r with
          | .error f => .error f
          | .ok (n, r) =>
            if isLowSurrogate n then
              .ok (Char.ofNat (0x10000 + (high - 0xD800) * 0x400 + (n - 0xDC00)), r)
            else stop .loneSurrogate r
        else stop .pairCutShort r
    else stop .pairCutShort r

/-- A character by number: four digits, or two escapes that are a surrogate pair. -/
def scanNumbered (s : Bytes) : Except Fault (Char × Bytes) :=
  match scanHex s with
  | .error f => .error f
  | .ok (n, r) =>
    if isLowSurrogate n then stop .loneSurrogate r
    else if isHighSurrogate n then scanLowHalf n r
    else .ok (Char.ofNat n, r)

/-- An escape after its backslash. -/
def scanEscape : Bytes → Except Fault (Char × Bytes)
  | [] => stop .endInString []
  | b :: r =>
    match shortEscape? b with
    | some c => .ok (c, r)
    | none => if b = 0x75 then scanNumbered r else stop .badEscape r

theorem scanHex_rest {s r : Bytes} {n : Nat} (h : scanHex s = .ok (n, r)) :
    r.length < s.length := by
  unfold scanHex at h
  split at h
  · split at h <;> simp [stop] at h
    simp only [List.length_cons, h.2]
    omega
  · simp [stop] at h

theorem scanLowHalf_rest {high : Nat} {s r : Bytes} {c : Char}
    (h : scanLowHalf high s = .ok (c, r)) : r.length < s.length := by
  unfold scanLowHalf at h
  split at h
  · simp [stop] at h
  · split at h
    · split at h
      · simp [stop] at h
      · split at h
        · split at h
          · simp at h
          · next hs =>
            have := scanHex_rest hs
            split at h <;> simp [stop] at h
            simp only [List.length_cons, ← h.2]
            omega
        · simp [stop] at h
    · simp [stop] at h

theorem scanNumbered_rest {s r : Bytes} {c : Char} (h : scanNumbered s = .ok (c, r)) :
    r.length < s.length := by
  unfold scanNumbered at h
  split at h
  · simp at h
  · next hs =>
    have := scanHex_rest hs
    split at h
    · simp [stop] at h
    · split at h
      · have := scanLowHalf_rest h
        omega
      · simp at h
        rw [← h.2]
        omega

/-- An escape takes at least one octet. -/
theorem scanEscape_rest {s r : Bytes} {c : Char} (h : scanEscape s = .ok (c, r)) :
    r.length < s.length := by
  unfold scanEscape at h
  split at h
  · simp [stop] at h
  · split at h
    · simp at h
      simp [h.2]
    · split at h
      · have := scanNumbered_rest h
        simp only [List.length_cons]
        omega
      · simp [stop] at h

/-- Reads a string up to its closing quote. `acc` holds the characters read so far in reverse,
and `bad` how many octets the text has from the first one that is not part of a character, with
an escape counted as the character it stands for. That fault gives way to any other that comes
before the closing quote, and its place is counted back from there. -/
def scanText (bad : Option Nat) (acc : List Char) : Bytes → Except Fault (String × Bytes)
  | [] => stop .endInString []
  | b :: r =>
    if b = quote then
      match bad with
      | none => .ok (String.ofList acc.reverse, r)
      | some count => .error ⟨.notUnicode, r.length + count⟩
    else if b = backslash then
      match h : scanEscape r with
      | .error f => .error f
      | .ok (c, rest) =>
        have := scanEscape_rest h
        scanText (bad.map (· + c.utf8Size)) (c :: acc) rest
    else if b < 0x20 then stop .controlCharacter r
    else
      match h : Utf8.next b r with
      | .char c rest =>
        have := Utf8.next_rest h
        scanText (bad.map (· + c.utf8Size)) (c :: acc) rest
      | .flaw _ => scanText (some (bad.getD 0 + 1)) acc r
termination_by s => s.length
decreasing_by all_goals simp only [List.length_cons]; omega

/-- A string takes at least its closing quote. -/
theorem scanText_rest {bad : Option Nat} {acc : List Char} {s r : Bytes} {t : String}
    (h : scanText bad acc s = .ok (t, r)) : r.length < s.length := by
  fun_induction scanText bad acc s with
  | case1 => simp [stop] at h
  | case2 =>
    simp at h
    simp [h.2]
  | case3 => simp at h
  | case4 => simp at h
  | case5 =>
    rename_i ih
    have := ih h
    simp only [List.length_cons]
    omega
  | case6 => simp [stop] at h
  | case7 =>
    rename_i ih
    have := ih h
    simp only [List.length_cons]
    omega
  | case8 =>
    rename_i ih
    have := ih h
    simp only [List.length_cons]
    omega

/-- Skips an escape after its backslash: its letter and its digits, not what they name. -/
def skipEscape : Bytes → Except Fault Bytes
  | [] => stop .endInString []
  | b :: r =>
    if (shortEscape? b).isSome then .ok r
    else if b = 0x75 then (scanHex r).map Prod.snd
    else stop .badEscape r

theorem skipEscape_rest {s r : Bytes} (h : skipEscape s = .ok r) : r.length < s.length := by
  unfold skipEscape at h
  split at h
  · simp [stop] at h
  · split at h
    · simp at h
      simp [h]
    · split at h
      · next s0 _ _ =>
        cases hs : scanHex s0 with
        | error f => simp [hs, Except.map] at h
        | ok p =>
          have := scanHex_rest hs
          simp [hs, Except.map] at h
          simp only [List.length_cons, ← h]
          omega
      · simp [stop] at h

/-- Skips a string up to its closing quote. -/
def skipText : Bytes → Except Fault Bytes
  | [] => stop .endInString []
  | b :: r =>
    if b = quote then .ok r
    else if b = backslash then
      match h : skipEscape r with
      | .error f => .error f
      | .ok rest =>
        have := skipEscape_rest h
        skipText rest
    else if b < 0x20 then stop .controlCharacter (b :: r)
    else skipText r
termination_by s => s.length
decreasing_by all_goals simp only [List.length_cons]; omega

theorem skipText_rest {s r : Bytes} (h : skipText s = .ok r) : r.length < s.length := by
  fun_induction skipText s with
  | case1 => simp [stop] at h
  | case2 =>
    simp at h
    simp [h]
  | case3 => simp at h
  | case4 =>
    rename_i ih
    have := ih h
    simp only [List.length_cons]
    omega
  | case5 => simp [stop] at h
  | case6 =>
    rename_i ih
    have := ih h
    simp only [List.length_cons]
    omega

theorem scanWord_rest {word s r : Bytes} (h : scanWord word s = .ok r) : r.length ≤ s.length := by
  fun_induction scanWord word s with
  | case1 s => simp at h; simp [h]
  | case2 => simp [stop] at h
  | case3 =>
    rename_i ih
    have := ih h
    simp only [List.length_cons]
    omega
  | case4 => simp [stop] at h

end OutboxProvisioning.Json
