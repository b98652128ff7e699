import OutboxProvisioning.Json.Number

/-!
# Skipping a value

A value that nobody wants is read only far enough to find its end. The arrays and objects
it stands in are kept on a stack, so that nesting has no limit.

* `skipRound`: up to the place where the next value begins, or to the end of the outermost.
* `skipValue`: a whole value.
-/

namespace OutboxProvisioning.Json

/-- An array or an object that has been opened and not closed. -/
inductive Frame
  | list
  | object
deriving DecidableEq, Repr

/-- The bracket that ends it. -/
def Frame.close : Frame → UInt8
  | .list => closeList
  | .object => closeObject

/-- The cause when the text ends inside it. -/
def Frame.ended : Frame → Cause
  | .list => .endInList
  | .object => .endInObject

/-- The cause when a value inside it is followed by neither a comma nor its end. -/
def Frame.unended : Frame → Cause
  | .list => .noListEnd
  | .object => .noObjectEnd

/-- Up to the value of a member: nothing in an array; a key and a colon in an object. -/
def skipKey : Frame → Bytes → Except Fault Bytes
  | .list, s => .ok s
  | .object, s =>
    match skipSpace s with
    | [] => stopAt .endInObject []
    | b :: r =>
      if b = quote then
        match skipText r with
        | .error f => .error f
        | .ok r =>
          match skipSpace r with
          | [] => stopAt .endInObject []
          | b :: rest => if b = colon then .ok rest else stopAt .noColon (b :: rest)
      else stopAt .keyNotText (b :: r)

/-- After a value: closes what ends here, and goes on to the next member of what does not.
Gives the open frames, or nothing when the outermost value has ended. -/
def skipEnds : List Frame → Bytes → Except Fault (Option (List Frame) × Bytes)
  | [], s => .ok (none, s)
  | f :: fs, s =>
    match skipSpace s with
    | [] => stopAt f.ended []
    | b :: r =>
      if b = comma then (skipKey f r).map fun r => (some (f :: fs), r)
      else if b = f.close then skipEnds fs r
      else stopAt f.unended (b :: r)

/-- After an opening bracket: either it is closed at once or its first member follows. -/
def skipOpened (f : Frame) (fs : List Frame) (s : Bytes) :
    Except Fault (Option (List Frame) × Bytes) :=
  match skipSpace s with
  | [] => stopAt f.ended []
  | b :: r =>
    if b = f.close then skipEnds fs r
    else (skipKey f (b :: r)).map fun r => (some (f :: fs), r)

/-- A value that holds no other: a word, a number or a string, of which `b` is the first octet. -/
def skipScalar (b : UInt8) (r : Bytes) : Except Fault Bytes :=
  if b = 0x6E then scanWord [0x75, 0x6C, 0x6C] r
  else if b = 0x74 then scanWord [0x72, 0x75, 0x65] r
  else if b = 0x66 then scanWord [0x61, 0x6C, 0x73, 0x65] r
  else if b = quote then skipText r
  else if b = minus || isDigit b then (scanSigned .badNumber (b :: r)).map Prod.snd
  else stopAt .noValue (b :: r)

/-- One value, or the bracket that opens it, and the ends that follow. -/
def skipRound (fs : List Frame) (s : Bytes) : Except Fault (Option (List Frame) × Bytes) :=
  match skipSpace s with
  | [] => stopAt .endBeforeValue []
  | b :: r =>
    if b = openList then skipOpened .list fs r
    else if b = openObject then skipOpened .object fs r
    else
      match skipScalar b r with
      | .error f => .error f
      | .ok r => skipEnds fs r

theorem skipKey_rest {f : Frame} {s r : Bytes} (h : skipKey f s = .ok r) :
    r.length ≤ s.length := by
  unfold skipKey at h
  split at h
  · simp at h
    simp [h]
  · have hs := length_skipSpace_le s
    split at h
    · simp [stopAt] at h
    · next b r1 hb =>
      rw [hb, List.length_cons] at hs
      split at h
      · split at h
        · simp at h
        · next r2 ht =>
          have ht := skipText_rest ht
          have h2 := length_skipSpace_le r2
          split at h
          · simp [stopAt] at h
          · next hc =>
            rw [hc, List.length_cons] at h2
            split at h <;> simp [stopAt] at h
            subst h
            omega
      · simp [stopAt] at h

theorem skipEnds_rest {fs : List Frame} {s r : Bytes} {o : Option (List Frame)}
    (h : skipEnds fs s = .ok (o, r)) : r.length ≤ s.length := by
  fun_induction skipEnds fs s with
  | case1 => simp at h; simp [h.2]
  | case2 => simp [stopAt] at h
  | case3 f fs s r0 hb =>
    have hs := length_skipSpace_le s
    rw [hb, List.length_cons] at hs
    cases hk : skipKey f r0 with
    | error e => simp [hk, Except.map] at h
    | ok r1 =>
      have := skipKey_rest hk
      simp [hk, Except.map] at h
      rw [← h.2]
      omega
  | case4 f fs s r0 hb _ ih =>
    have hs := length_skipSpace_le s
    rw [hb, List.length_cons] at hs
    have := ih h
    omega
  | case5 => simp [stopAt] at h

theorem skipOpened_rest {f : Frame} {fs : List Frame} {s r : Bytes} {o : Option (List Frame)}
    (h : skipOpened f fs s = .ok (o, r)) : r.length ≤ s.length := by
  unfold skipOpened at h
  have hs := length_skipSpace_le s
  split at h
  · simp [stopAt] at h
  · next b r0 hb =>
    rw [hb, List.length_cons] at hs
    split at h
    · have := skipEnds_rest h
      omega
    · cases hk : skipKey f (b :: r0) with
      | error e => simp [hk, Except.map] at h
      | ok r1 =>
        have := skipKey_rest hk
        simp only [List.length_cons] at this
        simp [hk, Except.map] at h
        rw [← h.2]
        omega

theorem skipScalar_rest {b : UInt8} {s r : Bytes} (h : skipScalar b s = .ok r) :
    r.length ≤ s.length := by
  unfold skipScalar at h
  split at h
  · exact scanWord_rest h
  · split at h
    · exact scanWord_rest h
    · split at h
      · exact scanWord_rest h
      · split at h
        · exact Nat.le_of_lt (skipText_rest h)
        · split at h
          · cases hn : scanSigned .badNumber (b :: s) with
            | error e => simp [hn, Except.map] at h
            | ok p =>
              have := scanSigned_rest hn
              simp [hn, Except.map] at h
              simp only [List.length_cons] at this
              rw [← h]
              omega
          · simp [stopAt] at h

/-- A round takes at least one octet. -/
theorem skipRound_rest {fs : List Frame} {s r : Bytes} {o : Option (List Frame)}
    (h : skipRound fs s = .ok (o, r)) : r.length < s.length := by
  unfold skipRound at h
  have hs := length_skipSpace_le s
  split at h
  · simp [stopAt] at h
  · next b r0 hb =>
    rw [hb, List.length_cons] at hs
    split at h
    · have := skipOpened_rest h
      omega
    · split at h
      · have := skipOpened_rest h
        omega
      · split at h
        · simp at h
        · next hr =>
          have := skipScalar_rest hr
          have := skipEnds_rest h
          omega

/-- Skips the rest of a value, inside the open frames `fs`, from where a value begins. -/
def skipFrom (fs : List Frame) (s : Bytes) : Except Fault Bytes :=
  match h : skipRound fs s with
  | .error f => .error f
  | .ok (none, r) => .ok r
  | .ok (some fs', r) =>
    have := skipRound_rest h
    skipFrom fs' r
termination_by s.length

/-- Skips a value. -/
def skipValue (s : Bytes) : Except Fault Bytes := skipFrom [] s

theorem skipFrom_rest {fs : List Frame} {s r : Bytes} (h : skipFrom fs s = .ok r) :
    r.length < s.length := by
  fun_induction skipFrom fs s with
  | case1 => simp at h
  | case2 fs s r0 hr =>
    have := skipRound_rest hr
    simp at h
    rw [← h]
    omega
  | case3 =>
    rename_i ih
    have := ih h
    omega

end OutboxProvisioning.Json
