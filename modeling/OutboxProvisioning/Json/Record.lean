import OutboxProvisioning.Json.Reader

/-!
# Records

A record is read from an object, member by member in any order, or from an array with the
members in their fixed order. Unknown members are skipped; a known one may be given once.

* `Member`: a name, and how its value enters the record under construction.
* `Schema`: the members of a record, and what it comes to when all are read.
* `Schema.reader`: the reader of the record.
-/

namespace OutboxProvisioning.Json

/-- A member of a record of which `σ` holds the part read so far. -/
structure Member (σ : Type) where
  name : String
  /-- Whether the member has been read. -/
  given : σ → Bool
  /-- Reads its value into the record. -/
  read : σ → Reader σ
  /-- Whether an array may end before it. -/
  optional : Bool

/-- How a record is read. -/
structure Schema (σ α : Type) where
  /-- What the record is called in messages. -/
  title : String
  members : List (Member σ)
  /-- Nothing read yet. -/
  start : σ
  /-- The record, or the name of a member that is missing. -/
  finish : σ → Except String α

/-- The key of the next member, read up to its colon; or what is left is the closing brace. -/
def scanKey (first : Bool) (s : Bytes) : Except Fault (Option String × Bytes) :=
  let key (s : Bytes) : Except Fault (Option String × Bytes) :=
    (scanText none [] s).map fun (k, r) => (some k, r)
  match skipSpace s with
  | [] => stopAt .endInObject []
  | b :: r =>
    if b = closeObject then .ok (none, b :: r)
    else if first then if b = quote then key r else stopAt .keyNotText (b :: r)
    else if b = comma then
      match skipSpace r with
      | [] => stopAt .endBeforeValue []
      | c :: rest =>
        if c = quote then key rest
        else if c = closeObject then stopAt .commaBeforeEnd (c :: rest)
        else stopAt .keyNotText (c :: rest)
    else stopAt .noObjectEnd (b :: r)

theorem scanKey_rest {first : Bool} {s r : Bytes} {k : String}
    (h : scanKey first s = .ok (some k, r)) : r.length < s.length := by
  have key : ∀ {s' : Bytes},
      (scanText none [] s').map (fun p => (some p.1, p.2)) = .ok (some k, r) →
      r.length < s'.length := by
    intro s' h
    cases ht : scanText none [] s' with
    | error e => simp [ht, Except.map] at h
    | ok p =>
      have := scanText_rest ht
      simp [ht, Except.map] at h
      rw [← h.2]
      exact this
  unfold scanKey at h
  have hs := length_skipSpace_le s
  dsimp only at h
  split at h
  · simp [stopAt] at h
  · next b r0 hb =>
    rw [hb, List.length_cons] at hs
    split at h
    · simp at h
    · split at h
      · split at h
        · have := key h
          omega
        · simp [stopAt] at h
      · split at h
        · have h2 := length_skipSpace_le r0
          split at h
          · simp [stopAt] at h
          · next hc =>
            rw [hc, List.length_cons] at h2
            split at h
            · have := key h
              omega
            · split at h <;> simp [stopAt] at h
        · simp [stopAt] at h

theorem scanKey_end {first : Bool} {s r : Bytes} (h : scanKey first s = .ok (none, r)) :
    r.length ≤ s.length := by
  have key : ∀ {s' : Bytes}, (scanText none [] s').map (fun p => (some p.1, p.2)) ≠
      .ok ((none : Option String), r) := by
    intro s'
    cases scanText none [] s' <;> simp [Except.map]
  unfold scanKey at h
  have hs := length_skipSpace_le s
  dsimp only at h
  split at h
  · simp [stopAt] at h
  · next b r0 hb =>
    rw [hb, List.length_cons] at hs
    split at h
    · simp at h
      rw [← h, List.length_cons]
      omega
    · split at h
      · split at h
        · exact absurd h key
        · simp [stopAt] at h
      · split at h
        · split at h
          · simp [stopAt] at h
          · split at h
            · exact absurd h key
            · split at h <;> simp [stopAt] at h
        · simp [stopAt] at h

/-- What is left after the end of an object that is read no further, for the sake of the place. -/
def dropObjectEnd (s : Bytes) : Bytes :=
  match skipSpace s with
  | [] => []
  | b :: r => if b = closeObject then r else b :: r

/-- What is left after the end of an array that is read no further. -/
def dropListEnd (s : Bytes) : Bytes :=
  match skipSpace s with
  | [] => []
  | b :: r => if b = closeList then r else b :: r

/-- Reads a member's value after its colon. -/
def scanMember (p : Reader σ) (s : Bytes) : Except Fault (σ × Bytes) :=
  match scanColon s with
  | .error f => .error f
  | .ok r => p.run r

theorem scanMember_rest {p : Reader σ} {s r : Bytes} {acc : σ}
    (h : scanMember p s = .ok (acc, r)) : r.length < s.length := by
  unfold scanMember at h
  split at h
  · simp at h
  · next hc =>
    have := scanColon_rest hc
    have := p.shorter h
    omega

/-- Skips a member's value after its colon. -/
def skipMember (s : Bytes) : Except Fault Bytes :=
  match scanColon s with
  | .error f => .error f
  | .ok r => skipValue r

theorem skipMember_rest {s r : Bytes} (h : skipMember s = .ok r) : r.length < s.length := by
  unfold skipMember at h
  split at h
  · simp at h
  · next hc =>
    have := scanColon_rest hc
    have := skipFrom_rest h
    omega

namespace Schema

variable {σ α : Type} (schema : Schema σ α)

/-- The member with a name. -/
def member? (name : String) : Option (Member σ) := schema.members.find? fun m => m.name == name

/-- Reads the members of an object up to its closing brace. -/
def scanMembers (first : Bool) (acc : σ) (s : Bytes) : Except Fault (σ × Bytes) :=
  match hk : scanKey first s with
  | .error f => .error f
  | .ok (none, r) => .ok (acc, r)
  | .ok (some k, r) =>
    have := scanKey_rest hk
    match schema.member? k with
    | none =>
      match hm : skipMember r with
      | .error f => .error f
      | .ok rest =>
        have := skipMember_rest hm
        scanMembers false acc rest
    | some m =>
      if m.given acc then stop (.repeated m.name) (dropObjectEnd r)
      else
        match hm : scanMember (m.read acc) r with
        | .error f => .error f
        | .ok (acc, rest) =>
          have := scanMember_rest hm
          scanMembers false acc rest
termination_by s.length

/-- The words for the positional form of the record. -/
def positional : String :=
  schema.title ++ s!" with {schema.members.length} element" ++
    if schema.members.length = 1 then "" else "s"

/-- Reads members in order from an array, `index` of them having been seen. -/
def scanPositions (ms : List (Member σ)) (index : Nat) (first : Bool) (acc : σ) (s : Bytes) :
    Except Fault (σ × Bytes) :=
  match ms with
  | [] => .ok (acc, s)
  | m :: ms =>
    match scanNext first s with
    | .error f => .error f
    | .ok (false, r) =>
      if m.optional then scanPositions ms (index + 1) first acc r
      else stop (.tooFew index schema.positional) (dropListEnd r)
    | .ok (true, r) =>
      match (m.read acc).run r with
      | .error f => .error f
      | .ok (acc, rest) => scanPositions ms (index + 1) false acc rest

/-- The record of what was read, before the octets `rest`. -/
def close (acc : σ) (rest : Bytes) : Except Fault (α × Bytes) :=
  match schema.finish acc with
  | .ok a => .ok (a, rest)
  | .error name => stop (.missing name) rest

/-- Reads a record. -/
def scan (s : Bytes) : Except Fault (α × Bytes) :=
  match skipSpace s with
  | [] => stopAt .endBeforeValue []
  | b :: r =>
    if b = openObject then
      match schema.scanMembers true schema.start r with
      | .error f => .error f
      | .ok (acc, r) => schema.close acc (dropObjectEnd r)
    else if b = openList then
      match schema.scanPositions schema.members 0 true schema.start r with
      | .error f => .error f
      | .ok (acc, r) =>
        match scanListEnd r with
        | .error f => .error f
        | .ok r => schema.close acc r
    else .error (mismatch schema.title b r)

variable {schema}

theorem scanMembers_rest {first : Bool} {acc acc' : σ} {s r : Bytes}
    (h : schema.scanMembers first acc s = .ok (acc', r)) : r.length ≤ s.length := by
  fun_induction schema.scanMembers first acc s with
  | case1 => simp at h
  | case2 first acc s r0 hk =>
    have := scanKey_end hk
    simp at h
    rw [← h.2]
    exact this
  | case3 => simp at h
  | case4 =>
    rename_i ih
    have := ih h
    omega
  | case5 => simp [stop] at h
  | case6 => simp at h
  | case7 =>
    rename_i ih
    have := ih h
    omega

theorem scanPositions_rest {ms : List (Member σ)} {index : Nat} {first : Bool} {acc acc' : σ}
    {s r : Bytes} (h : schema.scanPositions ms index first acc s = .ok (acc', r)) :
    r.length ≤ s.length := by
  fun_induction schema.scanPositions ms index first acc s with
  | case1 => simp at h; simp [h.2]
  | case2 => simp at h
  | case3 =>
    rename_i hn _ ih
    have := ih h
    have := scanNext_rest hn
    omega
  | case4 => simp [stop] at h
  | case5 => simp at h
  | case6 =>
    rename_i hn _ _ hp ih
    have := ih h
    have := scanNext_rest hn
    have := Reader.shorter _ hp
    omega

theorem length_dropObjectEnd_le (s : Bytes) : (dropObjectEnd s).length ≤ s.length := by
  unfold dropObjectEnd
  have hs := length_skipSpace_le s
  split
  · simp
  · next hb =>
    rw [hb, List.length_cons] at hs
    split
    · omega
    · rw [List.length_cons]
      omega

theorem close_rest {acc : σ} {rest r : Bytes} {a : α} (h : schema.close acc rest = .ok (a, r)) :
    r = rest := by
  unfold close at h
  split at h <;> simp [stop] at h
  exact h.2.symm

theorem scan_rest {s r : Bytes} {a : α} (h : schema.scan s = .ok (a, r)) :
    r.length < s.length := by
  unfold scan at h
  have hs := length_skipSpace_le s
  split at h
  · simp [stopAt] at h
  · next hb =>
    rw [hb, List.length_cons] at hs
    split at h
    · split at h
      · simp at h
      · next r1 hm =>
        have := scanMembers_rest hm
        have := length_dropObjectEnd_le r1
        rw [close_rest h]
        omega
    · split at h
      · split at h
        · simp at h
        · next hp =>
          split at h
          · simp at h
          · next hl =>
            have := scanPositions_rest hp
            have := scanListEnd_rest hl
            rw [close_rest h]
            omega
      · simp at h

variable (schema)

/-- The reader of the record. -/
def reader : Reader α := ⟨schema.scan, scan_rest⟩

end Schema

end OutboxProvisioning.Json
