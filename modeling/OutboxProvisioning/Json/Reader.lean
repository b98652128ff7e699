import OutboxProvisioning.Json.Skip

/-!
# Typed readers

A reader takes one value of a known type off the front of a text, and always takes at
least one octet. What is there instead of such a value is named in the fault.

* `Reader.text`, `Reader.parsed`: a string, and a string that has to spell something.
* `Reader.boolean`, `Reader.unsigned`, `Reader.orNull`, `Reader.list`, `Reader.variant`.
* `Reader.readAll`: a whole text.
-/

namespace OutboxProvisioning.Json

/-- A reader of values of one type. -/
structure Reader (α : Type) where
  run : Bytes → Except Fault (α × Bytes)
  shorter : ∀ {s r : Bytes} {a : α}, run s = .ok (a, r) → r.length < s.length

/-- The fault of a value of another type, of which `b` is the first octet. A word, a number or
a string is read to name it; the members of an array or an object are not. -/
def mismatch (wanted : String) (b : UInt8) (r : Bytes) : Fault :=
  let named {α : Type} (e : Except Fault (α × Bytes)) (found : α → Found) : Fault :=
    match e with
    | .error f => f
    | .ok (a, rest) => ⟨.wrongType (found a) wanted, rest.length⟩
  let word (w : Bytes) (found : Found) : Fault :=
    named ((scanWord w r).map fun rest => ((), rest)) fun _ => found
  if b = 0x6E then word [0x75, 0x6C, 0x6C] .null
  else if b = 0x74 then word [0x72, 0x75, 0x65] (.boolean true)
  else if b = 0x66 then word [0x61, 0x6C, 0x73, 0x65] (.boolean false)
  else if b = quote then named (scanText none [] r) .text
  else if b = openList then ⟨.wrongType .sequence wanted, r.length + 1⟩
  else if b = openObject then ⟨.wrongType .map wanted, r.length + 1⟩
  else if b = minus || isDigit b then
    match scanSigned .endBeforeValue (b :: r) with
    | .error f => f
    | .ok (n, rest) =>
      match n.value rest with
      | .error f => f
      | .ok n => ⟨.wrongType n.found wanted, rest.length⟩
  else ⟨.noValue, r.length⟩

/-- A string that a function accepts or refuses with a reason. -/
def scanParsed (wanted : String) (parse : String → Except String α) (s : Bytes) :
    Except Fault (α × Bytes) :=
  match skipSpace s with
  | [] => stopAt .endBeforeValue []
  | b :: r =>
    if b = quote then
      match scanText none [] r with
      | .error f => .error f
      | .ok (t, r) =>
        match parse t with
        | .ok a => .ok (a, r)
        | .error reason => stop (.refused reason) r
    else .error (mismatch wanted b r)

theorem scanParsed_rest {wanted : String} {parse : String → Except String α} {s r : Bytes} {a : α}
    (h : scanParsed wanted parse s = .ok (a, r)) : r.length < s.length := by
  unfold scanParsed at h
  have hs := length_skipSpace_le s
  split at h
  · simp [stopAt] at h
  · next hb =>
    rw [hb, List.length_cons] at hs
    split at h
    · split at h
      · simp at h
      · next ht =>
        have := scanText_rest ht
        split at h <;> simp [stop] at h
        rw [← h.2]
        omega
    · simp at h

/-- A string that has to spell a value. -/
def Reader.parsed (wanted : String) (parse : String → Except String α) : Reader α :=
  ⟨scanParsed wanted parse, scanParsed_rest⟩

/-- A string. -/
def Reader.text : Reader String := .parsed "a string" .ok

/-- `true` or `false`. -/
def scanBoolean (s : Bytes) : Except Fault (Bool × Bytes) :=
  match skipSpace s with
  | [] => stopAt .endBeforeValue []
  | b :: r =>
    if b = 0x74 then (scanWord [0x72, 0x75, 0x65] r).map fun r => (true, r)
    else if b = 0x66 then (scanWord [0x61, 0x6C, 0x73, 0x65] r).map fun r => (false, r)
    else .error (mismatch "a boolean" b r)

theorem scanBoolean_rest {s r : Bytes} {a : Bool} (h : scanBoolean s = .ok (a, r)) :
    r.length < s.length := by
  unfold scanBoolean at h
  have hs := length_skipSpace_le s
  split at h
  · simp [stopAt] at h
  · next b r0 hb =>
    rw [hb, List.length_cons] at hs
    have key : ∀ {word : Bytes} {v : Bool},
        (scanWord word r0).map (fun r => (v, r)) = .ok (a, r) → r.length < s.length := by
      intro word v h
      cases hw : scanWord word r0 with
      | error e => simp [hw, Except.map] at h
      | ok r1 =>
        have := scanWord_rest hw
        simp [hw, Except.map] at h
        rw [← h.2]
        omega
    split at h
    · exact key h
    · split at h
      · exact key h
      · simp at h

/-- A truth value. -/
def Reader.boolean : Reader Bool := ⟨scanBoolean, scanBoolean_rest⟩

/-- A whole number of so many bits without a sign. -/
def scanUnsigned (bits : Nat) (s : Bytes) : Except Fault (Nat × Bytes) :=
  match skipSpace s with
  | [] => stopAt .endBeforeValue []
  | b :: r =>
    let wanted := s!"u{bits}"
    if b = minus || isDigit b then
      match scanSigned .endBeforeValue (b :: r) with
      | .error f => .error f
      | .ok (n, rest) =>
        match n.value rest with
        | .error f => .error f
        | .ok (.natural n) =>
          if n < Nat.pow 2 bits then .ok (n, rest)
          else stop (.wrongValue (.natural n) wanted) rest
        | .ok (.negative i) => stop (.wrongValue (.negative i) wanted) rest
        | .ok (.float x) => stop (.wrongType (.float x) wanted) rest
    else .error (mismatch wanted b r)

theorem scanUnsigned_rest {bits : Nat} {s r : Bytes} {n : Nat}
    (h : scanUnsigned bits s = .ok (n, r)) : r.length < s.length := by
  unfold scanUnsigned at h
  have hs := length_skipSpace_le s
  split at h
  · simp [stopAt] at h
  · next hb =>
    rw [hb, List.length_cons] at hs
    split at h
    · split at h
      · simp at h
      · next hn =>
        have := scanSigned_rest hn
        simp only [List.length_cons] at this
        split at h
        · simp at h
        · split at h <;> simp [stop] at h
          rw [← h.2]
          omega
        · simp [stop] at h
        · simp [stop] at h
    · simp at h

/-- A whole number that fits the bits, as its value. -/
def Reader.unsigned (bits : Nat) : Reader Nat := ⟨scanUnsigned bits, scanUnsigned_rest⟩

/-- Changes what a reader gives. -/
def Reader.map (f : α → β) (p : Reader α) : Reader β where
  run s := match p.run s with
    | .error e => .error e
    | .ok (a, r) => .ok (f a, r)
  shorter h := by
    split at h
    · simp at h
    · next hp =>
      have := p.shorter hp
      simp at h
      rw [← h.2]
      exact this

/-- `null`, or a value. -/
def scanOrNull (p : Reader α) (s : Bytes) : Except Fault (Option α × Bytes) :=
  match skipSpace s with
  | [] => (p.map some).run []
  | b :: r =>
    if b = 0x6E then (scanWord [0x75, 0x6C, 0x6C] r).map fun r => (none, r)
    else (p.map some).run (b :: r)

theorem scanOrNull_rest {p : Reader α} {s r : Bytes} {a : Option α}
    (h : scanOrNull p s = .ok (a, r)) : r.length < s.length := by
  unfold scanOrNull at h
  have hs := length_skipSpace_le s
  split at h
  · have := (p.map some).shorter h
    simp at this
  · next b r0 hb =>
    rw [hb, List.length_cons] at hs
    split at h
    · cases hw : scanWord [0x75, 0x6C, 0x6C] r0 with
      | error e => simp [hw, Except.map] at h
      | ok r1 =>
        have := scanWord_rest hw
        simp [hw, Except.map] at h
        rw [← h.2]
        omega
    · have := (p.map some).shorter h
      simp only [List.length_cons] at this
      omega

/-- A value that may be `null`. -/
def Reader.orNull (p : Reader α) : Reader (Option α) := ⟨scanOrNull p, scanOrNull_rest⟩

/-- Whether another element of an array follows, and where it begins; otherwise what is left is
the closing bracket. -/
def scanNext (first : Bool) (s : Bytes) : Except Fault (Bool × Bytes) :=
  match skipSpace s with
  | [] => stopAt .endInList []
  | b :: r =>
    if b = closeList then .ok (false, b :: r)
    else if first then .ok (true, b :: r)
    else if b = comma then
      match skipSpace r with
      | [] => stopAt .endBeforeValue []
      | c :: rest =>
        if c = closeList then stopAt .commaBeforeEnd (c :: rest) else .ok (true, c :: rest)
    else stopAt .noListEnd (b :: r)

theorem scanNext_rest {first more : Bool} {s r : Bytes} (h : scanNext first s = .ok (more, r)) :
    r.length ≤ s.length := by
  unfold scanNext at h
  have hs := length_skipSpace_le s
  split at h
  · simp [stopAt] at h
  · next b r0 hb =>
    rw [hb, List.length_cons] at hs
    split at h
    · simp at h
      rw [← h.2, List.length_cons]
      omega
    · split at h
      · simp at h
        rw [← h.2, List.length_cons]
        omega
      · split at h
        · have h2 := length_skipSpace_le r0
          split at h
          · simp [stopAt] at h
          · next hc =>
            rw [hc, List.length_cons] at h2
            split at h <;> simp [stopAt] at h
            rw [← h.2, List.length_cons]
            omega
        · simp [stopAt] at h

/-- The elements of an array, with those read so far in reverse, up to its closing bracket. -/
def scanElements (p : Reader α) (first : Bool) (acc : List α) (s : Bytes) :
    Except Fault (List α × Bytes) :=
  match hn : scanNext first s with
  | .error f => .error f
  | .ok (false, r) => .ok (acc.reverse, r)
  | .ok (true, r) =>
    match hp : p.run r with
    | .error f => .error f
    | .ok (a, rest) =>
      have := scanNext_rest hn
      have := p.shorter hp
      scanElements p false (a :: acc) rest
termination_by s.length

theorem scanElements_rest {p : Reader α} {first : Bool} {acc l : List α} {s r : Bytes}
    (h : scanElements p first acc s = .ok (l, r)) : r.length ≤ s.length := by
  fun_induction scanElements p first acc s with
  | case1 => simp at h
  | case2 first acc s r0 hn =>
    have := scanNext_rest hn
    simp at h
    rw [← h.2]
    omega
  | case3 => simp at h
  | case4 =>
    rename_i ih
    have := ih h
    omega

/-- The end of an array after its elements. -/
def scanListEnd (s : Bytes) : Except Fault Bytes :=
  match skipSpace s with
  | [] => stopAt .endInList []
  | b :: r =>
    if b = closeList then .ok r
    else if b = comma then
      match skipSpace r with
      | [] => stopAt .trailing []
      | c :: rest => stopAt (if c = closeList then .commaBeforeEnd else .trailing) (c :: rest)
    else stopAt .trailing (b :: r)

theorem scanListEnd_rest {s r : Bytes} (h : scanListEnd s = .ok r) : r.length < s.length := by
  unfold scanListEnd at h
  have hs := length_skipSpace_le s
  split at h
  · simp [stopAt] at h
  · next hb =>
    rw [hb, List.length_cons] at hs
    split at h
    · simp at h
      rw [← h]
      omega
    · split at h
      · split at h <;> simp [stopAt] at h
      · simp [stopAt] at h

/-- An array of values of one type. -/
def scanList (p : Reader α) (s : Bytes) : Except Fault (List α × Bytes) :=
  match skipSpace s with
  | [] => stopAt .endBeforeValue []
  | b :: r =>
    if b = openList then
      match scanElements p true [] r with
      | .error f => .error f
      | .ok (l, r) => (scanListEnd r).map fun r => (l, r)
    else .error (mismatch "a sequence" b r)

theorem scanList_rest {p : Reader α} {s r : Bytes} {l : List α} (h : scanList p s = .ok (l, r)) :
    r.length < s.length := by
  unfold scanList at h
  have hs := length_skipSpace_le s
  split at h
  · simp [stopAt] at h
  · next hb =>
    rw [hb, List.length_cons] at hs
    split at h
    · split at h
      · simp at h
      · next r1 he =>
        have := scanElements_rest he
        cases hl : scanListEnd r1 with
        | error e => simp [hl, Except.map] at h
        | ok r2 =>
          have := scanListEnd_rest hl
          simp [hl, Except.map] at h
          rw [← h.2]
          omega
    · simp at h

/-- An array. -/
def Reader.list (p : Reader α) : Reader (List α) := ⟨scanList p, scanList_rest⟩

/-- The value with a name, among those known. -/
def findVariant (variants : List (String × α)) (name : String) : Except Cause α :=
  match variants.find? fun v => v.1 == name with
  | some v => .ok v.2
  | none => .error (.unknownVariant name (variants.map Prod.fst))

/-- The name of a variant as a string. -/
def scanVariantName (variants : List (String × α)) (s : Bytes) : Except Fault (α × Bytes) :=
  match skipSpace s with
  | [] => stopAt .endBeforeValue []
  | b :: r =>
    if b = quote then
      match scanText none [] r with
      | .error f => .error f
      | .ok (name, r) =>
        match findVariant variants name with
        | .ok a => .ok (a, r)
        | .error c => stop c r
    else .error (mismatch "variant identifier" b r)

theorem scanVariantName_rest {variants : List (String × α)} {s r : Bytes} {a : α}
    (h : scanVariantName variants s = .ok (a, r)) : r.length < s.length := by
  unfold scanVariantName at h
  have hs := length_skipSpace_le s
  split at h
  · simp [stopAt] at h
  · next hb =>
    rw [hb, List.length_cons] at hs
    split at h
    · split at h
      · simp at h
      · next ht =>
        have := scanText_rest ht
        split at h <;> simp [stop] at h
        rw [← h.2]
        omega
    · simp at h

/-- A colon. -/
def scanColon (s : Bytes) : Except Fault Bytes :=
  match skipSpace s with
  | [] => stopAt .endInObject []
  | b :: r => if b = colon then .ok r else stopAt .noColon (b :: r)

theorem scanColon_rest {s r : Bytes} (h : scanColon s = .ok r) : r.length < s.length := by
  unfold scanColon at h
  have hs := length_skipSpace_le s
  split at h
  · simp [stopAt] at h
  · next hb =>
    rw [hb, List.length_cons] at hs
    split at h <;> simp [stopAt] at h
    rw [← h]
    omega

/-- What a variant holds when it stands as a member name: `null`. -/
def scanNothing (s : Bytes) : Except Fault Bytes :=
  match skipSpace s with
  | [] => stopAt .endBeforeValue []
  | b :: r =>
    if b = 0x6E then scanWord [0x75, 0x6C, 0x6C] r else .error (mismatch "unit" b r)

theorem scanNothing_rest {s r : Bytes} (h : scanNothing s = .ok r) : r.length < s.length := by
  unfold scanNothing at h
  have hs := length_skipSpace_le s
  split at h
  · simp [stopAt] at h
  · next hb =>
    rw [hb, List.length_cons] at hs
    split at h
    · have := scanWord_rest h
      omega
    · simp at h

/-- Whether a member of an object may begin with the octets: its name is a string. -/
def scanMemberStart (s : Bytes) : Except Fault Bytes :=
  match skipSpace s with
  | [] => stopAt .endInObject []
  | b :: r => if b = quote then .ok (b :: r) else stopAt .keyNotText (b :: r)

theorem scanMemberStart_rest {s r : Bytes} (h : scanMemberStart s = .ok r) :
    r.length ≤ s.length := by
  unfold scanMemberStart at h
  have hs := length_skipSpace_le s
  split at h
  · simp [stopAt] at h
  · next hb =>
    rw [hb] at hs
    split at h <;> simp [stopAt] at h
    rw [← h]
    exact hs

/-- A variant without content: its name, or an object with its name and `null`. -/
def scanVariant (variants : List (String × α)) (s : Bytes) : Except Fault (α × Bytes) :=
  match skipSpace s with
  | [] => stopAt .endBeforeValue []
  | b :: r =>
    if b = openObject then
      match scanMemberStart r with
      | .error f => .error f
      | .ok r =>
        match scanVariantName variants r with
        | .error f => .error f
        | .ok (a, r) =>
          match scanColon r with
          | .error f => .error f
          | .ok r =>
            match scanNothing r with
            | .error f => .error f
            | .ok r =>
              match skipSpace r with
              | [] => stop .endInObject []
              | c :: rest =>
                if c = closeObject then .ok (a, rest) else stop .noValue (c :: rest)
    else if b = quote then scanVariantName variants (b :: r)
    else stopAt .noValue (b :: r)

theorem scanVariant_rest {variants : List (String × α)} {s r : Bytes} {a : α}
    (h : scanVariant variants s = .ok (a, r)) : r.length < s.length := by
  unfold scanVariant at h
  have hs := length_skipSpace_le s
  split at h
  · simp [stopAt] at h
  · next hb =>
    rw [hb, List.length_cons] at hs
    split at h
    · split at h
      · simp at h
      · next hm =>
        split at h
        · simp at h
        · next hv =>
          split at h
          · simp at h
          · next hc =>
            split at h
            · simp at h
            · next r3 hn =>
              have := scanMemberStart_rest hm
              have := scanVariantName_rest hv
              have := scanColon_rest hc
              have := scanNothing_rest hn
              have h3 := length_skipSpace_le r3
              split at h
              · simp [stop] at h
              · next he =>
                rw [he, List.length_cons] at h3
                split at h <;> simp [stop] at h
                rw [← h.2]
                omega
    · split at h
      · have := scanVariantName_rest h
        simp only [List.length_cons] at this
        omega
      · simp [stopAt] at h

/-- One of several named values. -/
def Reader.variant (variants : List (String × α)) : Reader α :=
  ⟨scanVariant variants, scanVariant_rest⟩

/-- Reads a whole text: one value and white space. -/
def Reader.readAll (p : Reader α) (text : Bytes) : Except Fault α :=
  match p.run text with
  | .error f => .error f
  | .ok (a, r) =>
    match skipSpace r with
    | [] => .ok a
    | b :: rest => stopAt .trailing (b :: rest)

/-- Reads a whole text, with the message of a fault. -/
def Reader.parse (p : Reader α) (text : Bytes) : Except String α :=
  (p.readAll text).mapError (Fault.message text)

end OutboxProvisioning.Json
