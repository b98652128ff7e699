import OutboxProvisioning.Json.Record
import OutboxProvisioning.Proofs.Json.Reader

/-!
# Objects, read member by member

What a record makes of the members of an object, without the octets between them: it reads those
it knows, skips the others, and stops at one that is repeated or refused.

* `Schema.Reads`, `Schema.Stops`: what becomes of a list of members.
* `reader_takes`, `reader_missing`, `reader_stops`: what becomes of an object with these members.
* `object_of_scan`: what is read up to a closing brace is the rest of an object.
-/

namespace OutboxProvisioning.Json

variable {σ α : Type} {schema : Schema σ α} {acc acc' : σ} {a : α} {e : Entry} {first : Bool}
  {entries : List Entry} {fault : Fault} {k : String} {m : Member σ}
  {members : List (String × Bytes)} {p : Reader σ} {parts : List Bytes} {r r' s v w : Bytes}

/-! ## Names and values of members -/

/-- What is left of an object behind the name of a member. -/
def Entry.behind (e : Entry) (parts : List Bytes) (r : Bytes) : Bytes :=
  e.between ++ colon :: (e.content.before ++
    (e.content.value ++ Frame.object.rest false e.content.after parts r))

theorem Entry.octets_append (e : Entry) (parts : List Bytes) (r : Bytes) :
    e.octets ++ Frame.object.rest false [] parts r =
      e.before ++ quote :: (e.name ++ quote :: e.behind parts r) := by
  have hrest := Frame.append_rest .object e.content.after [] parts r
  rw [List.append_nil] at hrest
  simp [Entry.octets, Entry.behind, inQuotes, Padded.octets, hrest]

theorem scanKey_close (hw : Blank w) (first : Bool) (r : Bytes) :
    scanKey first (Frame.object.rest first w [] r) = .ok (none, closeObject :: r) := by
  rw [Frame.rest_nil, scanKey, skipSpace_blank hw, skipSpace_cons (by decide)]
  simp only [Frame.close, if_true]

/-- The name of a member is read as what it spells. -/
theorem scanKey_entry (hw : Blank w) (hs : e.Spaced) (hk : Spells e.name k.toList) (first : Bool)
    (parts : List Bytes) (r : Bytes) :
    scanKey first (Frame.object.rest first w (e.octets :: parts) r) =
      .ok (some k, e.behind parts r) := by
  have htext := scanText_spells hk [] (e.behind parts r)
  rw [List.reverse_nil, List.nil_append, String.ofList_toList] at htext
  have hname : skipSpace (e.octets ++ Frame.object.rest false [] parts r) =
      quote :: (e.name ++ quote :: e.behind parts r) := by
    rw [e.octets_append, skipSpace_blank hs.1, skipSpace_cons (by decide)]
  have hclose : quote ≠ closeObject := by decide
  cases first with
  | true =>
    rw [Frame.rest_true_cons, scanKey, skipSpace_blank hw, hname]
    simp only [if_neg hclose, if_true, htext, Except.map]
  | false =>
    rw [Frame.rest_false_cons, scanKey, skipSpace_blank hw, skipSpace_cons (by decide)]
    simp only [if_neg (show comma ≠ closeObject by decide), if_neg Bool.false_ne_true, if_true,
      hname, htext, Except.map]

theorem scanColon_colon (hw : Blank w) (s : Bytes) : scanColon (w ++ colon :: s) = .ok s := by
  rw [scanColon, skipSpace_blank hw, skipSpace_cons (by decide)]
  simp only [if_true]

theorem scanMember_takes (hs : e.Spaced) (h : p.Takes e.content.value acc) (parts : List Bytes)
    (r : Bytes) : scanMember p (e.behind parts r) =
      .ok (acc, Frame.object.rest false e.content.after parts r) := by
  rw [scanMember, Entry.behind, scanColon_colon hs.2.1]
  exact h _ _ hs.2.2.1 (ends_rest hs.2.2.2 _ _ _)

theorem scanMember_refuses (hs : e.Spaced) (h : p.Refuses e.content.value) (parts : List Bytes)
    (r : Bytes) : ∃ fault, scanMember p (e.behind parts r) = .error fault := by
  rw [scanMember, Entry.behind, scanColon_colon hs.2.1]
  exact h _ _ hs.2.2.1 (ends_rest hs.2.2.2 _ _ _)

theorem skipMember_value (hs : e.Spaced) (h : IsValue e.content.value) (parts : List Bytes)
    (r : Bytes) : skipMember (e.behind parts r) =
      .ok (Frame.object.rest false e.content.after parts r) := by
  rw [skipMember, Entry.behind, scanColon_colon hs.2.1]
  exact skipValue_value h hs.2.2.1 (ends_rest hs.2.2.2 _ _ _)

namespace Schema

/-! ## One member -/

/-- The members, without the reasons why reading them ends. -/
theorem scanMembers_eq (schema : Schema σ α) (first : Bool) (acc : σ) (s : Bytes) :
    schema.scanMembers first acc s =
      match scanKey first s with
      | .error fault => .error fault
      | .ok (none, r) => .ok (acc, r)
      | .ok (some k, r) =>
        match schema.member? k with
        | none =>
          match skipMember r with
          | .error fault => .error fault
          | .ok r => schema.scanMembers false acc r
        | some m =>
          if m.given acc then stop (.repeated m.name) (dropObjectEnd r)
          else
            match scanMember (m.read acc) r with
            | .error fault => .error fault
            | .ok (acc, r) => schema.scanMembers false acc r := by
  rw [scanMembers]
  split
  · next hk => rw [hk]
  · next hk => rw [hk]
  · next k r hk =>
    simp only [hk]
    cases schema.member? k with
    | none =>
      dsimp only
      split
      · next hr => simp only [hr]
      · next hr => simp only [hr]
    | some m =>
      dsimp only
      split
      · rfl
      · split
        · next hr => simp only [hr]
        · next hr => simp only [hr]

theorem scanMembers_close (h : scanKey first s = .ok (none, r)) :
    schema.scanMembers first acc s = .ok (acc, r) := by
  rw [scanMembers_eq, h]

/-- The members `entries`, of which the first is called `k`. -/
theorem scanMembers_entry (hw : Blank w) (hs : e.Spaced) (hk : Spells e.name k.toList)
    (parts : List Bytes) (r : Bytes) :
    schema.scanMembers first acc (Frame.object.rest first w (e.octets :: parts) r) =
      match schema.member? k with
      | none =>
        match skipMember (e.behind parts r) with
        | .error fault => .error fault
        | .ok r => schema.scanMembers false acc r
      | some m =>
        if m.given acc then stop (.repeated m.name) (dropObjectEnd (e.behind parts r))
        else
          match scanMember (m.read acc) (e.behind parts r) with
          | .error fault => .error fault
          | .ok (acc, r) => schema.scanMembers false acc r := by
  rw [scanMembers_eq, scanKey_entry hw hs hk]

theorem scanMembers_skip (hw : Blank w) (hs : e.Spaced) (hv : IsValue e.content.value)
    (hk : Spells e.name k.toList) (hm : schema.member? k = none) (parts : List Bytes) (r : Bytes) :
    schema.scanMembers first acc (Frame.object.rest first w (e.octets :: parts) r) =
      schema.scanMembers false acc (Frame.object.rest false e.content.after parts r) := by
  rw [scanMembers_entry hw hs hk, hm]
  simp only [skipMember_value hs hv]

theorem scanMembers_read (hw : Blank w) (hs : e.Spaced) (hk : Spells e.name k.toList)
    (hm : schema.member? k = some m) (hg : m.given acc = false)
    (ht : (m.read acc).Takes e.content.value acc') (parts : List Bytes) (r : Bytes) :
    schema.scanMembers first acc (Frame.object.rest first w (e.octets :: parts) r) =
      schema.scanMembers false acc' (Frame.object.rest false e.content.after parts r) := by
  rw [scanMembers_entry hw hs hk, hm]
  simp only [hg, Bool.false_eq_true, if_false, scanMember_takes hs ht]

theorem scanMembers_repeated (hw : Blank w) (hs : e.Spaced) (hk : Spells e.name k.toList)
    (hm : schema.member? k = some m) (hg : m.given acc = true) (parts : List Bytes) (r : Bytes) :
    ∃ fault, schema.scanMembers first acc (Frame.object.rest first w (e.octets :: parts) r) =
      .error fault := by
  rw [scanMembers_entry hw hs hk, hm]
  simp only [hg, if_true]
  exact ⟨_, rfl⟩

theorem scanMembers_refused (hw : Blank w) (hs : e.Spaced) (hk : Spells e.name k.toList)
    (hm : schema.member? k = some m) (hg : m.given acc = false)
    (ht : (m.read acc).Refuses e.content.value) (parts : List Bytes) (r : Bytes) :
    ∃ fault, schema.scanMembers first acc (Frame.object.rest first w (e.octets :: parts) r) =
      .error fault := by
  obtain ⟨fault, hf⟩ := scanMember_refuses hs ht parts r
  rw [scanMembers_entry hw hs hk, hm]
  simp only [hg, Bool.false_eq_true, if_false, hf]
  exact ⟨fault, rfl⟩

/-! ## All members -/

/-- What has been read when all members have been read or skipped. -/
inductive Reads (schema : Schema σ α) : σ → List (String × Bytes) → σ → Prop
  | done {acc : σ} : Reads schema acc [] acc
  | skip {acc acc' : σ} {k : String} {v : Bytes} {members : List (String × Bytes)} :
      schema.member? k = none → Reads schema acc members acc' →
      Reads schema acc ((k, v) :: members) acc'
  | read {acc acc₁ acc' : σ} {k : String} {v : Bytes} {m : Member σ}
      {members : List (String × Bytes)} : schema.member? k = some m → m.given acc = false →
      (m.read acc).Takes v acc₁ → Reads schema acc₁ members acc' →
      Reads schema acc ((k, v) :: members) acc'

/-- One of the members is repeated or refused, and those before it are read or skipped. -/
inductive Stops (schema : Schema σ α) : σ → List (String × Bytes) → Prop
  | repeated {acc : σ} {k : String} {v : Bytes} {m : Member σ} {members : List (String × Bytes)} :
      schema.member? k = some m → m.given acc = true → Stops schema acc ((k, v) :: members)
  | refused {acc : σ} {k : String} {v : Bytes} {m : Member σ} {members : List (String × Bytes)} :
      schema.member? k = some m → m.given acc = false → (m.read acc).Refuses v →
      Stops schema acc ((k, v) :: members)
  | skip {acc : σ} {k : String} {v : Bytes} {members : List (String × Bytes)} :
      schema.member? k = none → Stops schema acc members → Stops schema acc ((k, v) :: members)
  | read {acc acc₁ : σ} {k : String} {v : Bytes} {m : Member σ}
      {members : List (String × Bytes)} : schema.member? k = some m → m.given acc = false →
      (m.read acc).Takes v acc₁ → Stops schema acc₁ members → Stops schema acc ((k, v) :: members)

theorem scanMembers_reads (first : Bool) (h : schema.Reads acc members acc')
    (he : List.Forall₂ Entry.Is entries members) (hs : ∀ e ∈ entries, e.Spaced)
    (hv : ∀ e ∈ entries, IsValue e.content.value) (hw : Blank w) (r : Bytes) :
    schema.scanMembers first acc (Frame.object.rest first w (entries.map Entry.octets) r) =
      .ok (acc', closeObject :: r) := by
  -- along the entries; each of them is one step of `Reads`
  induction he generalizing acc first w with
  | nil =>
    cases h
    exact scanMembers_close (scanKey_close hw first r)
  | @cons e x entries members hk _ ih =>
    obtain ⟨k, v⟩ := x
    obtain ⟨hk, rfl⟩ : Spells e.name k.toList ∧ e.content.value = v := hk
    obtain ⟨hes, hs⟩ := List.forall_mem_cons.mp hs
    obtain ⟨hev, hv⟩ := List.forall_mem_cons.mp hv
    rw [List.map_cons]
    cases h with
    | skip hm h =>
      rw [scanMembers_skip hw hes hev hk hm]
      exact ih false h hs hv hes.2.2.2
    | read hm hg ht h =>
      rw [scanMembers_read hw hes hk hm hg ht]
      exact ih false h hs hv hes.2.2.2

theorem scanMembers_stops (first : Bool) (h : schema.Stops acc members)
    (he : List.Forall₂ Entry.Is entries members) (hs : ∀ e ∈ entries, e.Spaced)
    (hv : ∀ e ∈ entries, IsValue e.content.value) (hw : Blank w) (r : Bytes) :
    ∃ fault, schema.scanMembers first acc
      (Frame.object.rest first w (entries.map Entry.octets) r) = .error fault := by
  induction he generalizing acc first w with
  | nil => cases h
  | @cons e x entries members hk _ ih =>
    obtain ⟨k, v⟩ := x
    obtain ⟨hk, rfl⟩ : Spells e.name k.toList ∧ e.content.value = v := hk
    obtain ⟨hes, hs⟩ := List.forall_mem_cons.mp hs
    obtain ⟨hev, hv⟩ := List.forall_mem_cons.mp hv
    rw [List.map_cons]
    cases h with
    | repeated hm hg => exact scanMembers_repeated hw hes hk hm hg _ r
    | refused hm hg ht => exact scanMembers_refused hw hes hk hm hg ht _ r
    | skip hm h =>
      rw [scanMembers_skip hw hes hev hk hm]
      exact ih false h hs hv hes.2.2.2
    | read hm hg ht h =>
      rw [scanMembers_read hw hes hk hm hg ht]
      exact ih false h hs hv hes.2.2.2

theorem reader_run (schema : Schema σ α) (s : Bytes) : schema.reader.run s = schema.scan s := rfl

theorem scan_object (hw : Blank w) (w' : Bytes) (parts : List Bytes) (r : Bytes) :
    schema.scan (w ++ (Frame.object.octets w' parts ++ r)) =
      match schema.scanMembers true schema.start (Frame.object.rest true w' parts r) with
      | .error fault => .error fault
      | .ok (acc, r) => schema.close acc (dropObjectEnd r) := by
  rw [Frame.octets_append, scan, skipSpace_blank hw, skipSpace_cons (by decide)]
  rfl

theorem dropObjectEnd_close (r : Bytes) : dropObjectEnd (closeObject :: r) = r := by
  rw [dropObjectEnd, skipSpace_cons (by decide)]
  rfl

/-- **An object is read as what its members come to.** -/
theorem reader_takes (hv : IsObject v members) (h : schema.Reads schema.start members acc)
    (ha : schema.finish acc = .ok a) : schema.reader.Takes v a := by
  intro w r hw _
  cases hv with
  | entries hw' hs hvalues he =>
    rw [reader_run, objectOctets_eq, scan_object hw,
      scanMembers_reads true h he hs hvalues hw' r]
    simp only [dropObjectEnd_close, close, ha]

/-- An object that lacks a member is refused. -/
theorem reader_missing {name : String} (hv : IsObject v members)
    (h : schema.Reads schema.start members acc) (ha : schema.finish acc = .error name) :
    schema.reader.Refuses v := by
  intro w r hw _
  cases hv with
  | entries hw' hs hvalues he =>
    rw [reader_run, objectOctets_eq, scan_object hw,
      scanMembers_reads true h he hs hvalues hw' r]
    simp only [dropObjectEnd_close, close, ha]
    exact ⟨_, rfl⟩

/-- **An object is refused at a member that is repeated or refused.** -/
theorem reader_stops (hv : IsObject v members) (h : schema.Stops schema.start members) :
    schema.reader.Refuses v := by
  intro w r hw _
  cases hv with
  | entries hw' hs hvalues he =>
    obtain ⟨fault, hf⟩ := scanMembers_stops true h he hs hvalues hw' r
    rw [reader_run, objectOctets_eq, scan_object hw, hf]
    exact ⟨fault, rfl⟩

end Schema

theorem IsObject.isValue (h : IsObject v members) : IsValue v := by
  cases h with
  | entries hw hs hv he =>
    refine .object hw hs ?_ hv
    clear hs hv
    induction he with
    | nil => simp
    | cons hm _ ih => exact List.forall_mem_cons.mpr ⟨hm.1.isRaw, ih⟩

/-! ## What is read is an object -/

/-- The text of a name, behind its opening quote. -/
theorem name_of_scan {o : Option String}
    (h : (scanText none [] s).map (fun x => (some x.1, x.2)) = .ok (o, r)) :
    ∃ k raw, o = some k ∧ Spells raw k.toList ∧ quote :: s = inQuotes raw ++ r := by
  cases ht : scanText none [] s with
  | error fault =>
    rw [ht] at h
    cases h
  | ok x =>
    rw [ht] at h
    cases h
    obtain ⟨-, raw, cs, hspell, hs, hk⟩ := spells_of_scanText ht
    refine ⟨_, raw, rfl, by rw [hk]; simpa using hspell, ?_⟩
    rw [hs, inQuotes_append]

/-- A name stands behind white space, and behind a comma unless it is the first. -/
theorem lead_of_key (h : scanKey first s = .ok (some k, r)) :
    ∃ l raw, Lead first l ∧ Spells raw k.toList ∧ s = l ++ (inQuotes raw ++ r) := by
  obtain ⟨w, hw, hs⟩ := blank_of_skipSpace s
  unfold scanKey at h
  dsimp only at h
  split at h
  · cases h
  · next b r0 hb =>
    split at h
    · cases h
    · split at h
      · next hfirst =>
        split at h
        · next hq =>
          obtain ⟨k, raw, hk, hraw, he⟩ := name_of_scan h
          cases hk
          rw [hfirst]
          exact ⟨w, raw, .first hw, hraw, by rw [hs, hb, hq, he]⟩
        · cases h
      · next hfirst =>
        rw [Bool.not_eq_true] at hfirst
        split at h
        · next hcomma =>
          obtain ⟨w', hw', hr0⟩ := blank_of_skipSpace r0
          split at h
          · cases h
          · next c rest hc =>
            split at h
            · next hq =>
              obtain ⟨k, raw, hk, hraw, he⟩ := name_of_scan h
              cases hk
              rw [hfirst]
              refine ⟨_, raw, .later hw hw', hraw, ?_⟩
              rw [hs, hb, hcomma, hr0, hc, hq, he]
              simp
            · split at h <;> cases h
        · cases h

/-- Where no name is read the brace closes. -/
theorem close_of_key (h : scanKey first s = .ok (none, r)) :
    ∃ w r', Blank w ∧ s = w ++ r ∧ r = closeObject :: r' := by
  obtain ⟨w, hw, hs⟩ := blank_of_skipSpace s
  have named : ∀ {s' : Bytes}, (scanText none [] s').map (fun x => (some x.1, x.2)) ≠
      .ok ((none : Option String), r) := by
    intro s' h
    obtain ⟨k, -, hk, -⟩ := name_of_scan h
    cases hk
  unfold scanKey at h
  dsimp only at h
  split at h
  · cases h
  · next b r0 hb =>
    split at h
    · next hclose =>
      cases h
      exact ⟨w, r0, hw, by rw [← hb, ← hs], by rw [hclose]⟩
    · split at h
      · split at h
        · exact absurd h named
        · cases h
      · split at h
        · split at h
          · cases h
          · split at h
            · exact absurd h named
            · split at h <;> cases h
        · cases h

theorem colon_of_scan (h : scanColon s = .ok r) : ∃ w, Blank w ∧ s = w ++ colon :: r := by
  obtain ⟨w, hw, hs⟩ := blank_of_skipSpace s
  unfold scanColon at h
  split at h
  · cases h
  · next b r0 hb =>
    split at h
    · next hcolon =>
      cases h
      exact ⟨w, hw, by rw [hs, hb, hcolon]⟩
    · cases h

/-- The reader reads nothing but values, and takes what it reads wherever it stands. -/
def Reader.Sound (p : Reader α) : Prop :=
  ∀ s a r, p.run s = .ok (a, r) →
    ∃ w v, Blank w ∧ IsValue v ∧ p.Takes v a ∧ s = w ++ (v ++ r)

theorem Reader.Exact.toSound {p : Reader α} {R : Bytes → α → Prop} (h : p.Exact R) : p.Sound := by
  intro s a r hs
  obtain ⟨w, v, hw, hv, he⟩ := h.sound s a r hs
  exact ⟨w, v, hw, h.value v a hv, h.takes v a hv, he⟩

theorem Reader.Sound.map {β : Type} {p : Reader α} (h : p.Sound) (f : α → β) : (p.map f).Sound := by
  intro s b r hs
  unfold Reader.map at hs
  dsimp only at hs
  split at hs
  · cases hs
  · next a r' hp =>
    cases hs
    obtain ⟨w, v, hw, hv, ht, he⟩ := h _ _ _ hp
    exact ⟨w, v, hw, hv, ht.map f, he⟩

/-- The rest of an object: what is left of its members up to what follows its brace. -/
inductive ObjectRest (first : Bool) (r : Bytes) : Bytes → List (String × Bytes) → Prop
  | entries {w : Bytes} {entries : List Entry} {members : List (String × Bytes)} : Blank w →
      (∀ e ∈ entries, e.Spaced) → (∀ e ∈ entries, IsValue e.content.value) →
      List.Forall₂ Entry.Is entries members →
      ObjectRest first r (Frame.object.rest first w (entries.map Entry.octets) r) members

/-- A member before the rest of an object. -/
theorem ObjectRest.cons {l raw w' w₁ : Bytes} (hl : Lead first l) (hk : Spells raw k.toList)
    (hw' : Blank w') (hw₁ : Blank w₁) (hv : IsValue v) (h : ObjectRest false r s members) :
    ObjectRest first r (l ++ (inQuotes raw ++ (w' ++ colon :: (w₁ ++ (v ++ s)))))
      ((k, v) :: members) := by
  obtain ⟨w, before, hw, hbefore, hrest⟩ := hl.rest
  cases h with
  | @entries w₂ entries _ hw₂ hs hvalues he =>
    have hentry : l ++ (inQuotes raw ++ (w' ++ colon :: (w₁ ++ (v ++
        Frame.object.rest false w₂ (entries.map Entry.octets) r)))) = Frame.object.rest first w
          (((⟨before, raw, w', ⟨w₁, v, w₂⟩⟩ : Entry) :: entries).map Entry.octets) r := by
      have := hrest .object (inQuotes raw ++ (w' ++ colon :: (w₁ ++ (v ++ w₂))))
        (entries.map Entry.octets) r
      have happend := Frame.append_rest .object w₂ [] (entries.map Entry.octets) r
      rw [List.append_nil] at happend
      simpa [Entry.octets, Padded.octets, happend] using this
    rw [hentry]
    refine .entries hw ?_ ?_ (.cons ⟨hk, rfl⟩ he)
    · exact List.forall_mem_cons.mpr ⟨⟨hbefore, hw', hw₁, hw₂⟩, hs⟩
    · exact List.forall_mem_cons.mpr ⟨hv, hvalues⟩

/-- **What is read up to a closing brace is the rest of an object**, member by member. -/
theorem object_of_scan (hsound : ∀ m ∈ schema.members, ∀ acc, (m.read acc).Sound)
    (h : schema.scanMembers first acc s = .ok (acc', r)) :
    ∃ r' members, r = closeObject :: r' ∧ ObjectRest first r' s members ∧
      schema.Reads acc members acc' := by
  fun_induction schema.scanMembers first acc s with
  | case1 => cases h
  | case2 first acc s r0 hk =>
    cases h
    obtain ⟨w, r', hw, rfl, rfl⟩ := close_of_key hk
    refine ⟨r', [], rfl, ?_, .done⟩
    have : ObjectRest first r' (Frame.object.rest first w ([].map Entry.octets) r') [] :=
      .entries hw (by simp) (by simp) .nil
    rwa [List.map_nil, Frame.rest_nil] at this
  | case3 => cases h
  | case4 first acc s k r0 hk _ hm rest hskip _ ih =>
    -- a member that is not known, which is skipped
    obtain ⟨r', members, rfl, hrest, hreads⟩ := ih h
    obtain ⟨l, raw, hl, hspell, rfl⟩ := lead_of_key hk
    unfold skipMember at hskip
    split at hskip
    · cases hskip
    · next hcolon =>
      obtain ⟨w', hw', rfl⟩ := colon_of_scan hcolon
      obtain ⟨w₁, v, hw₁, hv, rfl⟩ := value_of_skip hskip
      exact ⟨r', _, rfl, hrest.cons hl hspell hw' hw₁ hv, .skip hm hreads⟩
  | case5 => cases h
  | case6 => cases h
  | case7 first acc s k r0 hk _ m hm hg acc₁ rest hread _ ih =>
    -- a known member, which is read
    obtain ⟨r', members, rfl, hrest, hreads⟩ := ih h
    obtain ⟨l, raw, hl, hspell, rfl⟩ := lead_of_key hk
    unfold scanMember at hread
    split at hread
    · cases hread
    · next hcolon =>
      obtain ⟨w', hw', rfl⟩ := colon_of_scan hcolon
      obtain ⟨w₁, v, hw₁, hv, ht, rfl⟩ := hsound m (List.mem_of_find?_eq_some hm) acc _ _ _ hread
      exact ⟨r', _, rfl, hrest.cons hl hspell hw' hw₁ hv,
        .read hm (Bool.eq_false_iff.mpr hg) ht hreads⟩

end OutboxProvisioning.Json
