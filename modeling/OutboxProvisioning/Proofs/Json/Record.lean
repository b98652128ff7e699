import Mathlib.Data.List.Nodup
import OutboxProvisioning.Proofs.Json.Object

/-!
# Records as tables

A record keeps each of its members in a slot of its own. So it does not matter in which order the
members of an object come, and what it comes to can be told slot by slot.

* `Slot`, `Schema.Table`: the slots of a record, and that they do not get into each other's way.
* `Table.takes`: an object that gives every known member at most once is read.
* `Table.refuses`: one that repeats a member, or gives one that is refused, is refused.
* `Table.shape`: a text that is read is an object, or an array with the members in order.
-/

namespace OutboxProvisioning.Json

variable {σ α : Type} {a : α} {first : Bool} {acc acc' : σ} {index : Nat} {k : String}
  {members : List (String × Bytes)} {r r' s v w : Bytes} {values : List Bytes}

/-- The place of one member in a record of which `σ` holds the part read so far. -/
structure Slot (σ : Type) where
  {value : Type}
  name : String
  reader : Reader value
  get : σ → Option value
  put : σ → value → σ
  optional : Bool

/-- The member that is kept in a slot. -/
def Slot.member (i : Slot σ) : Member σ :=
  ⟨i.name, fun d => (i.get d).isSome, fun d => i.reader.map (i.put d), i.optional⟩

variable {schema : Schema σ α} {slots : List (Slot σ)} {i j : Slot σ}

/-- **The members of a record are kept in these slots**, each by its name and apart from the
others. -/
structure Schema.Table (schema : Schema σ α) (slots : List (Slot σ)) : Prop where
  members : schema.members = slots.map Slot.member
  names : (slots.map Slot.name).Nodup
  start : ∀ i ∈ slots, i.get schema.start = none
  same : ∀ i ∈ slots, ∀ d a, i.get (i.put d a) = some a
  other : ∀ i ∈ slots, ∀ j ∈ slots, i.name ≠ j.name → ∀ d a, j.get (i.put d a) = j.get d

/-- What the members of an object hold for a slot: nothing, or a value that its reader takes. -/
def Slot.Found (i : Slot σ) (members : List (String × Bytes)) : Option i.value → Prop
  | none => i.name ∉ members.map Prod.fst
  | some a => ∃ v, (i.name, v) ∈ members ∧ i.reader.Takes v a

namespace Schema.Table

theorem eq_of_name (T : schema.Table slots) (hi : i ∈ slots) (hj : j ∈ slots)
    (h : i.name = j.name) : i = j := List.inj_on_of_nodup_map T.names hi hj h

/-- A name is that of a slot or of no member. -/
theorem name_cases (T : schema.Table slots) (k : String) :
    (schema.member? k = none ∧ ∀ i ∈ slots, i.name ≠ k) ∨
      ∃ i ∈ slots, i.name = k ∧ schema.member? k = some i.member := by
  cases hm : schema.member? k with
  | none =>
    refine .inl ⟨rfl, fun i hi hk => ?_⟩
    have hmem : i.member ∈ schema.members := T.members ▸ List.mem_map_of_mem hi
    have := List.find?_eq_none.mp hm i.member hmem
    exact this (by simpa [Slot.member] using hk)
  | some m =>
    have hmem := List.mem_of_find?_eq_some hm
    rw [T.members] at hmem
    obtain ⟨i, hi, rfl⟩ := List.mem_map.mp hmem
    have hk := List.find?_some hm
    exact .inr ⟨i, hi, by simpa [Slot.member] using hk, rfl⟩

/-! ## Members in any order -/

/-- Members that come once, to slots that are empty, are read. -/
theorem reads (T : schema.Table slots)
    (honce : ∀ i ∈ slots, (members.map Prod.fst).count i.name ≤ 1)
    (hfresh : ∀ i ∈ slots, (i.get acc).isSome = true → i.name ∉ members.map Prod.fst)
    (htakes : ∀ i ∈ slots, ∀ v, (i.name, v) ∈ members → ∃ a, i.reader.Takes v a) :
    ∃ acc', schema.Reads acc members acc' ∧ ∀ i ∈ slots,
      (i.name ∉ members.map Prod.fst ∧ i.get acc' = i.get acc) ∨
        ∃ v a, (i.name, v) ∈ members ∧ i.reader.Takes v a ∧ i.get acc' = some a := by
  induction members generalizing acc with
  | nil => exact ⟨acc, .done, fun i _ => .inl ⟨by simp, rfl⟩⟩
  | cons x members ih =>
    obtain ⟨k, v⟩ := x
    have honce' : ∀ i ∈ slots, (members.map Prod.fst).count i.name ≤ 1 := fun i hi =>
      Nat.le_trans (List.count_le_count_cons ..) (honce i hi)
    have htakes' : ∀ i ∈ slots, ∀ v, (i.name, v) ∈ members → ∃ a, i.reader.Takes v a :=
      fun i hi v hv => htakes i hi v (List.mem_cons_of_mem _ hv)
    rcases T.name_cases k with ⟨hm, hk⟩ | ⟨i₀, hi₀, rfl, hm⟩
    · -- no slot has this name
      obtain ⟨acc', hr, hslots⟩ := ih honce' (fun i hi h hmem => hfresh i hi h
        (List.mem_cons_of_mem _ hmem)) htakes'
      refine ⟨acc', .skip hm hr, fun i hi => ?_⟩
      rcases hslots i hi with ⟨hnot, hget⟩ | ⟨v, a, hv, ha, hget⟩
      · exact .inl ⟨List.not_mem_cons_of_ne_of_not_mem (hk i hi) hnot, hget⟩
      · exact .inr ⟨v, a, List.mem_cons_of_mem _ hv, ha, hget⟩
    · obtain ⟨a, ha⟩ := htakes i₀ hi₀ v List.mem_cons_self
      have hempty : (i₀.get acc).isSome = false := by
        rw [Bool.eq_false_iff]
        exact fun h => hfresh i₀ hi₀ h List.mem_cons_self
      have hlast : i₀.name ∉ members.map Prod.fst := by
        have := honce i₀ hi₀
        rw [List.map_cons, List.count_cons_self] at this
        exact List.count_eq_zero.mp (by omega)
      -- the slot is filled now, but its name does not come again
      have hfresh' : ∀ i ∈ slots, (i.get (i₀.put acc a)).isSome = true →
          i.name ∉ members.map Prod.fst := by
        intro i hi h hmem
        by_cases hname : i.name = i₀.name
        · exact hlast (hname ▸ hmem)
        · rw [T.other i₀ hi₀ i hi (Ne.symm hname)] at h
          exact hfresh i hi h (List.mem_cons_of_mem _ hmem)
      obtain ⟨acc', hr, hslots⟩ := ih honce' hfresh' htakes'
      refine ⟨acc', .read hm hempty (ha.map _) hr, fun i hi => ?_⟩
      rcases hslots i hi with ⟨hnot, hget⟩ | ⟨v', a', hv', ha', hget⟩
      · by_cases hname : i.name = i₀.name
        · obtain rfl := T.eq_of_name hi hi₀ hname
          rw [T.same i hi] at hget
          exact .inr ⟨v, a, List.mem_cons_self, ha, hget⟩
        · rw [T.other i₀ hi₀ i hi (Ne.symm hname)] at hget
          exact .inl ⟨List.not_mem_cons_of_ne_of_not_mem hname hnot, hget⟩
      · exact .inr ⟨v', a', List.mem_cons_of_mem _ hv', ha', hget⟩

/-- A member that comes to a slot that is not empty, or comes twice, or is refused. -/
def Bad (slots : List (Slot σ)) (acc : σ) (members : List (String × Bytes)) : Prop :=
  ∃ i ∈ slots, ((i.get acc).isSome = true ∧ i.name ∈ members.map Prod.fst) ∨
    2 ≤ (members.map Prod.fst).count i.name ∨ ∃ v, (i.name, v) ∈ members ∧ i.reader.Refuses v

theorem stops (T : schema.Table slots)
    (heach : ∀ i ∈ slots, ∀ v, (i.name, v) ∈ members →
      (∃ a, i.reader.Takes v a) ∨ i.reader.Refuses v)
    (hbad : Bad slots acc members) : schema.Stops acc members := by
  induction members generalizing acc with
  | nil =>
    obtain ⟨i, -, ⟨-, h⟩ | h | ⟨v, h, -⟩⟩ := hbad
    · cases h
    · simp at h
    · cases h
  | cons x members ih =>
    obtain ⟨k, v⟩ := x
    have ih : ∀ acc, Bad slots acc members → schema.Stops acc members :=
      fun _ => ih fun i hi v hv => heach i hi v (List.mem_cons_of_mem _ hv)
    rcases T.name_cases k with ⟨hm, hk⟩ | ⟨i₀, hi₀, rfl, hm⟩
    · -- this member is skipped, so it is not the bad one
      refine .skip hm (ih acc ?_)
      obtain ⟨i, hi, h⟩ := hbad
      have hne : k ≠ i.name := Ne.symm (hk i hi)
      refine ⟨i, hi, ?_⟩
      rcases h with ⟨hsome, hmem⟩ | hcount | ⟨u, hu, hrefuses⟩
      · exact .inl ⟨hsome, List.mem_of_ne_of_mem (Ne.symm hne) hmem⟩
      · rw [List.map_cons, List.count_cons_of_ne hne] at hcount
        exact .inr (.inl hcount)
      · rcases List.mem_cons.mp hu with hu | hu
        · exact absurd (congrArg Prod.fst hu).symm hne
        · exact .inr (.inr ⟨u, hu, hrefuses⟩)
    · cases hget : (i₀.get acc).isSome with
      | true => exact .repeated hm hget
      | false =>
        rcases heach i₀ hi₀ v List.mem_cons_self with ⟨a, ha⟩ | hrefuses
        · refine .read hm hget (ha.map _) (ih _ ?_)
          obtain ⟨i, hi, h⟩ := hbad
          refine ⟨i, hi, ?_⟩
          by_cases hname : i.name = i₀.name
          · obtain rfl := T.eq_of_name hi hi₀ hname
            -- what is wrong with this member lies in those that are left
            rcases h with ⟨hsome, -⟩ | hcount | ⟨u, hu, hrefuses⟩
            · rw [hget] at hsome
              cases hsome
            · rw [List.map_cons, List.count_cons_self] at hcount
              have hmem := List.count_pos_iff.mp (Nat.lt_of_succ_le (Nat.le_of_succ_le_succ hcount))
              exact .inl ⟨by rw [T.same i hi]; rfl, hmem⟩
            · rcases List.mem_cons.mp hu with hu | hu
              · cases hu
                exact absurd ha hrefuses.not_takes
              · exact .inr (.inr ⟨u, hu, hrefuses⟩)
          · rcases h with ⟨hsome, hmem⟩ | hcount | ⟨u, hu, hrefuses⟩
            · rw [← T.other i₀ hi₀ i hi (Ne.symm hname) acc a] at hsome
              exact .inl ⟨hsome, List.mem_of_ne_of_mem hname hmem⟩
            · rw [List.map_cons, List.count_cons_of_ne (Ne.symm hname)] at hcount
              exact .inr (.inl hcount)
            · rcases List.mem_cons.mp hu with hu | hu
              · exact absurd (congrArg Prod.fst hu) hname
              · exact .inr (.inr ⟨u, hu, hrefuses⟩)
        · exact .refused hm hget (hrefuses.map _)

/-- **An object that gives every known member at most once is read**, slot by slot. -/
theorem takes (T : schema.Table slots) (hv : IsObject v members)
    (honce : ∀ i ∈ slots, (members.map Prod.fst).count i.name ≤ 1)
    (htakes : ∀ i ∈ slots, ∀ v, (i.name, v) ∈ members → ∃ a, i.reader.Takes v a) :
    ∃ acc, (∀ i ∈ slots, i.Found members (i.get acc)) ∧
      (∀ a, schema.finish acc = .ok a → schema.reader.Takes v a) ∧
      ∀ name, schema.finish acc = .error name → schema.reader.Refuses v := by
  have hfresh : ∀ i ∈ slots, (i.get schema.start).isSome = true →
      i.name ∉ members.map Prod.fst := by
    intro i hi h
    rw [T.start i hi] at h
    cases h
  obtain ⟨acc, hr, hslots⟩ := T.reads honce hfresh htakes
  refine ⟨acc, fun i hi => ?_, fun a => reader_takes hv hr, fun name => reader_missing hv hr⟩
  rcases hslots i hi with ⟨hnot, hget⟩ | ⟨u, a, hu, ha, hget⟩
  · rw [hget, T.start i hi]
    exact hnot
  · rw [hget]
    exact ⟨u, hu, ha⟩

/-- **An object that repeats a known member, or gives one that is refused, is refused.** -/
theorem refuses (T : schema.Table slots) (hv : IsObject v members)
    (heach : ∀ i ∈ slots, ∀ v, (i.name, v) ∈ members →
      (∃ a, i.reader.Takes v a) ∨ i.reader.Refuses v)
    (hbad : ∃ i ∈ slots, 2 ≤ (members.map Prod.fst).count i.name ∨
      ∃ v, (i.name, v) ∈ members ∧ i.reader.Refuses v) : schema.reader.Refuses v := by
  obtain ⟨i, hi, h⟩ := hbad
  exact reader_stops hv (T.stops heach ⟨i, hi, .inr h⟩)

end Schema.Table

/-! ## Members in order -/

/-- What has been read when the elements of an array have been put into the slots one by one. The
slots that are left may be left out. -/
inductive InOrder : List (Slot σ) → σ → List Bytes → σ → Prop
  | done {slots : List (Slot σ)} {acc : σ} : (∀ i ∈ slots, i.optional = true) →
      InOrder slots acc [] acc
  | read {i : Slot σ} {slots : List (Slot σ)} {acc acc' : σ} {v : Bytes} {a : i.value}
      {values : List Bytes} : i.reader.Takes v a → InOrder slots (i.put acc a) values acc' →
      InOrder (i :: slots) acc (v :: values) acc'

namespace Schema

theorem scanListEnd_close (hw : Blank w) (r : Bytes) :
    scanListEnd (w ++ closeList :: r) = .ok r := by
  rw [scanListEnd, skipSpace_blank hw, skipSpace_cons (by decide)]
  rfl

/-- Slots that may be left out are, at the end of an array. -/
theorem scanPositions_end (h : ∀ i ∈ slots, i.optional = true) (hw : Blank w) (index : Nat)
    (r : Bytes) : ∃ r', schema.scanPositions (slots.map Slot.member) index first acc
      (Frame.list.rest first w [] r) = .ok (acc, r') ∧ scanListEnd r' = .ok r := by
  induction slots generalizing index w with
  | nil => exact ⟨_, rfl, by rw [Frame.rest_nil]; exact scanListEnd_close hw r⟩
  | cons i slots ih =>
    obtain ⟨hi, hslots⟩ := List.forall_mem_cons.mp h
    have hnext : schema.scanPositions ((i :: slots).map Slot.member) index first acc
        (Frame.list.rest first w [] r) = schema.scanPositions (slots.map Slot.member) (index + 1)
          first acc (Frame.list.rest first [] [] r) := by
      rw [List.map_cons, scanPositions, scanNext_end hw, Frame.rest_nil]
      simp only [Slot.member, hi, if_true]
      rfl
    rw [hnext]
    exact ih hslots .nil (index + 1)

theorem scanPositions_items (schema : Schema σ α) (first : Bool) {items : List Padded}
    (h : InOrder slots acc (items.map Padded.value) acc') (hs : ∀ i ∈ items, i.Spaced)
    (hv : ∀ i ∈ items, IsValue i.value) (hw : Blank w) (index : Nat) (r : Bytes) :
    ∃ r', schema.scanPositions (slots.map Slot.member) index first acc
      (Frame.list.rest first w (items.map Padded.octets) r) = .ok (acc', r') ∧
        scanListEnd r' = .ok r := by
  induction items generalizing slots first acc w index with
  | nil =>
    cases h with
    | done h => exact scanPositions_end h hw index r
  | cons x items ih =>
    obtain ⟨hxs, hs⟩ := List.forall_mem_cons.mp hs
    obtain ⟨hxv, hv⟩ := List.forall_mem_cons.mp hv
    cases h with
    | @read i slots _ _ _ a _ ha h =>
      have hrun := (ha.map (i.put acc)) []
        (Frame.list.rest false x.after (items.map Padded.octets) r) .nil (ends_rest hxs.2 _ _ _)
      rw [List.nil_append] at hrun
      rw [List.map_cons, List.map_cons, scanPositions, scanNext_item hw hxs hxv]
      simp only [Slot.member, hrun]
      exact ih false h hs hv hxs.2 (index + 1)

theorem scan_list (hw : Blank w) (w' : Bytes) (parts : List Bytes) (r : Bytes) :
    schema.scan (w ++ (Frame.list.octets w' parts ++ r)) =
      match schema.scanPositions schema.members 0 true schema.start
        (Frame.list.rest true w' parts r) with
      | .error fault => .error fault
      | .ok (acc, r) =>
        match scanListEnd r with
        | .error fault => .error fault
        | .ok r => schema.close acc r := by
  rw [Frame.octets_append, scan, skipSpace_blank hw, skipSpace_cons (by decide)]
  rfl

/-- **An array is read as its elements come to in order.** -/
theorem Table.takes_list (T : schema.Table slots) (hv : IsList v values)
    (h : InOrder slots schema.start values acc) (ha : schema.finish acc = .ok a) :
    schema.reader.Takes v a := by
  intro w r hw _
  cases hv with
  | items hw' hs hvalues =>
    obtain ⟨r', hr, hend⟩ := scanPositions_items schema true h hs hvalues hw' 0 r
    rw [reader_run, listOctets_eq, scan_list hw, T.members, hr]
    simp only [hend, close, ha]

end Schema

/-! ## What is read is an object or an array -/

/-- The rest of an array: what is left of its elements up to what follows its bracket. -/
inductive ListRest (first : Bool) (r : Bytes) : Bytes → List Bytes → Prop
  | items {w : Bytes} {items : List Padded} : Blank w → (∀ i ∈ items, i.Spaced) →
      (∀ i ∈ items, IsValue i.value) →
      ListRest first r (Frame.list.rest first w (items.map Padded.octets) r)
        (items.map Padded.value)

theorem ListRest.nil (hw : Blank w) (first : Bool) (r : Bytes) :
    ListRest first r (w ++ closeList :: r) [] := by
  have : ListRest first r (Frame.list.rest first w ([].map Padded.octets) r)
      ([].map Padded.value) := .items hw (by simp) (by simp)
  rwa [List.map_nil, Frame.rest_nil] at this

/-- An element before the rest of an array. -/
theorem ListRest.cons {l w₁ : Bytes} (hl : Lead first l) (hw₁ : Blank w₁) (hv : IsValue v)
    (h : ListRest false r s values) : ListRest first r (l ++ (w₁ ++ (v ++ s))) (v :: values) := by
  obtain ⟨w, before, hw, hbefore, hrest⟩ := hl.rest
  cases h with
  | @items w₂ items hw₂ hs hvalues =>
    have hitem : l ++ (w₁ ++ (v ++ Frame.list.rest false w₂ (items.map Padded.octets) r)) =
        Frame.list.rest first w
          (((⟨before ++ w₁, v, w₂⟩ : Padded) :: items).map Padded.octets) r := by
      have := hrest .list (w₁ ++ (v ++ w₂)) (items.map Padded.octets) r
      have happend := Frame.append_rest .list w₂ [] (items.map Padded.octets) r
      rw [List.append_nil] at happend
      simpa [Padded.octets, happend] using this
    rw [hitem]
    refine .items hw ?_ ?_
    · exact List.forall_mem_cons.mpr ⟨⟨hbefore.append hw₁, hw₂⟩, hs⟩
    · exact List.forall_mem_cons.mpr ⟨hv, hvalues⟩

theorem close_of_listEnd (h : scanListEnd s = .ok r) : ∃ w, Blank w ∧ s = w ++ closeList :: r := by
  obtain ⟨w, hw, hs⟩ := blank_of_skipSpace s
  unfold scanListEnd at h
  split at h
  · cases h
  · next b r0 hb =>
    split at h
    · next hclose =>
      cases h
      exact ⟨w, hw, by rw [hs, hb, hclose]⟩
    · split at h
      · split at h <;> cases h
      · cases h

/-- The rest of an object makes a text behind its opening brace. -/
theorem ObjectRest.isText (hw : Blank w) (hr : Blank r) (h : ObjectRest true r s members) :
    ∃ v, IsText v (w ++ openObject :: s) ∧ IsObject v members := by
  cases h with
  | @entries w' entries _ hw' hspaced hvalues he =>
    have ht := IsText.padded (v := objectOctets w' entries) hw hr
    rw [objectOctets_eq, Frame.octets_append] at ht
    exact ⟨_, ht, .entries hw' hspaced hvalues he⟩

/-- The rest of an array makes a text behind its opening bracket. -/
theorem ListRest.isText (hw : Blank w) (hr : Blank r) (h : ListRest true r s values) :
    ∃ v, IsText v (w ++ openList :: s) ∧ IsList v values := by
  cases h with
  | @items w' items hw' hspaced hvalues =>
    have ht := IsText.padded (v := listOctets w' items) hw hr
    rw [listOctets_eq, Frame.octets_append] at ht
    exact ⟨_, ht, .items hw' hspaced hvalues⟩

namespace Schema

/-- When an array has ended only slots that may be left out are left. -/
theorem end_of_positions
    (h : schema.scanPositions (slots.map Slot.member) index first acc (closeList :: r) =
      .ok (acc', r')) : acc' = acc ∧ r' = closeList :: r ∧ ∀ i ∈ slots, i.optional = true := by
  induction slots generalizing index with
  | nil =>
    cases h
    exact ⟨rfl, rfl, by simp⟩
  | cons i slots ih =>
    have hnext : scanNext first (closeList :: r) = .ok (false, closeList :: r) := by
      have := scanNext_end .nil first r
      rwa [Frame.rest_nil] at this
    rw [List.map_cons, scanPositions, hnext] at h
    dsimp only at h
    split at h
    · next hoptional =>
      obtain ⟨hacc, hr, hslots⟩ := ih h
      exact ⟨hacc, hr, List.forall_mem_cons.mpr ⟨hoptional, hslots⟩⟩
    · cases h

/-- What is read up to the end of an array is the rest of one, with the elements in order. -/
theorem list_of_positions (hsound : ∀ i ∈ slots, i.reader.Sound)
    (h : schema.scanPositions (slots.map Slot.member) index first acc s = .ok (acc', r'))
    (hend : scanListEnd r' = .ok r) :
    ∃ values, ListRest first r s values ∧ InOrder slots acc values acc' := by
  induction slots generalizing index first acc s with
  | nil =>
    cases h
    obtain ⟨w, hw, rfl⟩ := close_of_listEnd hend
    exact ⟨[], .nil hw first r, .done (by simp)⟩
  | cons i slots ih =>
    obtain ⟨hi, hslots⟩ := List.forall_mem_cons.mp hsound
    rw [List.map_cons, scanPositions] at h
    split at h
    · cases h
    · next r₀ hnext =>
      obtain ⟨w, r₁, hw, rfl, rfl⟩ := end_of_next hnext
      split at h
      · next hoptional =>
        -- the array ends before this slot, and all slots from here on may be left out
        obtain ⟨rfl, rfl, hall⟩ := end_of_positions h
        rw [← List.nil_append (closeList :: r₁), scanListEnd_close .nil] at hend
        cases hend
        exact ⟨[], .nil hw first r, .done (List.forall_mem_cons.mpr ⟨hoptional, hall⟩)⟩
      · cases h
    · next r₀ hnext =>
      obtain ⟨l, hl, rfl⟩ := lead_of_next hnext
      split at h
      · cases h
      · next acc₁ rest hrun =>
        cases hrun' : i.reader.run r₀ with
        | error fault =>
          simp only [Slot.member, Reader.map, hrun'] at hrun
          cases hrun
        | ok x =>
          simp only [Slot.member, Reader.map, hrun'] at hrun
          cases hrun
          obtain ⟨w₁, v, hw₁, hv, ht, rfl⟩ := hi _ _ _ hrun'
          obtain ⟨values, hrest, hin⟩ := ih hslots h
          exact ⟨v :: values, hrest.cons hl hw₁ hv, .read ht hin⟩

theorem finish_of_close {rest : Bytes} (h : schema.close acc rest = .ok (a, r)) :
    schema.finish acc = .ok a := by
  unfold close at h
  split at h
  · next hf =>
    cases h
    exact hf
  · cases h

/-- **A text that is read as a record** is an object whose members are read, or an array with the
members in order. -/
theorem Table.shape_reads (T : schema.Table slots) (hsound : ∀ i ∈ slots, i.reader.Sound)
    (h : schema.reader.parse s = .ok a) :
    (∃ v members acc, IsText v s ∧ IsObject v members ∧ schema.Reads schema.start members acc ∧
        schema.finish acc = .ok a) ∨
      ∃ v values acc, IsText v s ∧ IsList v values ∧ InOrder slots schema.start values acc ∧
        schema.finish acc = .ok a := by
  obtain ⟨r, hrun, hr⟩ := Reader.run_of_parse h
  obtain ⟨w, hw, hs⟩ := blank_of_skipSpace s
  rw [reader_run, scan] at hrun
  split at hrun
  · cases hrun
  · next b r₀ hb =>
    rw [hb] at hs
    split at hrun
    · next hobject =>
      split at hrun
      · cases hrun
      · next acc r₁ hscan =>
        have hmembers : ∀ m ∈ schema.members, ∀ acc, (m.read acc).Sound := by
          intro m hm acc
          rw [T.members] at hm
          obtain ⟨i, hi, rfl⟩ := List.mem_map.mp hm
          exact (hsound i hi).map _
        obtain ⟨r', members, rfl, hrest, hreads⟩ := object_of_scan hmembers hscan
        rw [dropObjectEnd_close] at hrun
        have hfinish := finish_of_close hrun
        obtain rfl := close_rest hrun
        obtain ⟨v, ht, hv⟩ := hrest.isText hw hr
        exact .inl ⟨v, members, acc, by rw [hs, hobject]; exact ht, hv, hreads, hfinish⟩
    · split at hrun
      · next hlist =>
        split at hrun
        · cases hrun
        · next acc r₁ hscan =>
          split at hrun
          · cases hrun
          · next r₂ hend =>
            rw [T.members] at hscan
            obtain ⟨values, hrest, hin⟩ := list_of_positions hsound hscan hend
            have hfinish := finish_of_close hrun
            obtain rfl := close_rest hrun
            obtain ⟨v, ht, hv⟩ := hrest.isText hw hr
            exact .inr ⟨v, values, acc, by rw [hs, hlist]; exact ht, hv, hin, hfinish⟩
      · cases hrun

/-- In short: an object, or an array with the members in order. -/
theorem Table.shape (T : schema.Table slots) (hsound : ∀ i ∈ slots, i.reader.Sound)
    (h : schema.reader.parse s = .ok a) :
    (∃ v members, IsText v s ∧ IsObject v members) ∨
      ∃ v values acc, IsText v s ∧ IsList v values ∧ InOrder slots schema.start values acc ∧
        schema.finish acc = .ok a := by
  rcases T.shape_reads hsound h with ⟨v, members, -, ht, hv, -⟩ | hlist
  · exact .inl ⟨v, members, ht, hv⟩
  · exact .inr hlist

end Schema

end OutboxProvisioning.Json
