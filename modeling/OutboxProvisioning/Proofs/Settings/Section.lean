import OutboxProvisioning.Proofs.Json.Record
import OutboxProvisioning.Proofs.Settings.Given

/-!
# A section from two sources

What is given for the items of a section makes the same section, or none, whether the items are
texts in a tree or members of an object, in any order.

* `fill_ok`, `fill_error`: what becomes of the entries of a tree.
* `Section.Gives`: the section that given items make.
* `ofTree_of_gives`, `takes_of_gives`: **a section is read from both sources alike**;
  `ofTree_of_not_gives`, `refuses_of_not_gives`: and refused alike.
-/

namespace OutboxProvisioning.Settings

open Json (IsObject Schema Slot)

variable {α σ : Type} {a : α} {d d' : σ} {entries : List (String × Tree)}
  {given : List (String × Given)} {i : Item σ} {s : Section σ α} {v : Bytes}

/-! ## Entries of a tree -/

/-- A place in a record, and how a tree is read for it. -/
structure Place (σ : Type) where
  slot : Slot σ
  read : Tree → Except LoadError slot.value

/-- Reads the entries that have places, one after the other. -/
def fill (places : List (Place σ)) (d : σ) : List (String × Tree) → Except LoadError σ
  | [] => .ok d
  | (name, t) :: rest =>
    match places.find? fun p => p.slot.name = name with
    | none => fill places d rest
    | some p =>
      match p.read t with
      | .error e => .error e
      | .ok a => fill places (p.slot.put d a) rest

section
variable {places : List (Place σ)} {schema : Schema σ α} (T : schema.Table (places.map Place.slot))
include T

theorem place_of_name {p q : Place σ} (hp : p ∈ places) (hq : q ∈ places)
    (h : p.slot.name = q.slot.name) : p = q := by
  have hnames := T.names
  rw [List.map_map] at hnames
  exact List.inj_on_of_nodup_map hnames hp hq h

/-- **Entries with names of their own are read into their places**, if each of them is. -/
theorem fill_ok (hnodup : (entries.map Prod.fst).Nodup)
    (hread : ∀ p ∈ places, ∀ t, (p.slot.name, t) ∈ entries → ∃ a, p.read t = .ok a) :
    ∃ d', fill places d entries = .ok d' ∧ ∀ p ∈ places,
      (p.slot.name ∉ entries.map Prod.fst ∧ p.slot.get d' = p.slot.get d) ∨
        ∃ t a, (p.slot.name, t) ∈ entries ∧ p.read t = .ok a ∧ p.slot.get d' = some a := by
  induction entries generalizing d with
  | nil => exact ⟨d, rfl, fun p _ => .inl ⟨by simp, rfl⟩⟩
  | cons x entries ih =>
    obtain ⟨k, t⟩ := x
    have hlater := (List.nodup_cons.mp hnodup).2
    have hrest : ∀ p ∈ places, ∀ t, (p.slot.name, t) ∈ entries → ∃ a, p.read t = .ok a :=
      fun p hp t ht => hread p hp t (List.mem_cons_of_mem _ ht)
    cases hfind : places.find? fun p => p.slot.name = k with
    | none =>
      -- the entry has no place
      have hne : ∀ p ∈ places, p.slot.name ≠ k := by
        simpa using List.find?_eq_none.mp hfind
      obtain ⟨d', hd', hplaces⟩ := ih (d := d) hlater hrest
      refine ⟨d', by rw [fill, hfind]; exact hd', fun p hp => ?_⟩
      rcases hplaces p hp with ⟨hnot, hget⟩ | ⟨u, a, hu, ha, hget⟩
      · exact .inl ⟨List.not_mem_cons_of_ne_of_not_mem (hne p hp) hnot, hget⟩
      · exact .inr ⟨u, a, List.mem_cons_of_mem _ hu, ha, hget⟩
    | some q =>
      have hq := List.mem_of_find?_eq_some hfind
      obtain rfl : q.slot.name = k := by simpa using List.find?_some hfind
      obtain ⟨b, hb⟩ := hread q hq t List.mem_cons_self
      obtain ⟨d', hd', hplaces⟩ := ih (d := q.slot.put d b) hlater hrest
      refine ⟨d', by rw [fill, hfind]; simp only [hb, hd'], fun p hp => ?_⟩
      have hpslot := List.mem_map_of_mem (f := Place.slot) hp
      have hqslot := List.mem_map_of_mem (f := Place.slot) hq
      rcases hplaces p hp with ⟨hnot, hget⟩ | ⟨u, a, hu, ha, hget⟩
      · by_cases hname : p.slot.name = q.slot.name
        · -- no later entry has this name, so the place keeps what it was given
          obtain rfl := place_of_name T hp hq hname
          rw [T.same _ hpslot] at hget
          exact .inr ⟨t, b, List.mem_cons_self, hb, hget⟩
        · rw [T.other _ hqslot _ hpslot (Ne.symm hname)] at hget
          exact .inl ⟨List.not_mem_cons_of_ne_of_not_mem hname hnot, hget⟩
      · exact .inr ⟨u, a, List.mem_cons_of_mem _ hu, ha, hget⟩

/-- **Entries are refused if one of them is.** -/
theorem fill_error {p : Place σ} {t : Tree} {e : LoadError} (hp : p ∈ places)
    (ht : (p.slot.name, t) ∈ entries) (he : p.read t = .error e) :
    ∃ e', fill places d entries = .error e' := by
  induction entries generalizing d with
  | nil => cases ht
  | cons x entries ih =>
    obtain ⟨k, u⟩ := x
    have hrest : ∀ d, (p.slot.name, t) ∈ entries → ∃ e', fill places d entries = .error e' :=
      fun d ht => ih (d := d) ht
    rw [fill]
    cases hfind : places.find? fun p => p.slot.name = k with
    | none =>
      have hne : ∀ p ∈ places, p.slot.name ≠ k := by
        simpa using List.find?_eq_none.mp hfind
      rcases List.mem_cons.mp ht with ht | ht
      · exact absurd (congrArg Prod.fst ht) (hne p hp)
      · exact hrest d ht
    | some q =>
      have hq := List.mem_of_find?_eq_some hfind
      obtain rfl : q.slot.name = k := by simpa using List.find?_some hfind
      cases hread : q.read u with
      | error e' => exact ⟨e', by simp only [hread]⟩
      | ok b =>
        simp only [hread]
        rcases List.mem_cons.mp ht with ht | ht
        · -- the entry that is refused has just been read
          obtain rfl := place_of_name T hp hq (congrArg Prod.fst ht)
          obtain rfl : t = u := congrArg Prod.snd ht
          rw [hread] at he
          cases he
        · exact hrest _ ht

end

/-! ## Sections -/

/-- The place of an item in an object. -/
def Item.slot (i : Item σ) : Slot σ := ⟨i.name, i.kind.reader, i.get, i.put, i.optional⟩

/-- The place of an item in a tree. -/
def Item.place (i : Item σ) : Place σ :=
  ⟨i.slot, fun t => (i.kind.ofTree t).mapError (.within i.name)⟩

/-- What an item holds when this is given for some items. -/
def Item.Holds (i : Item σ) (given : List (String × Given)) : Option i.value → Prop
  | none => i.name ∉ given.map Prod.fst
  | some a => ∃ g, (i.name, g) ∈ given ∧ i.kind.Means g a

theorem Item.Holds.isSome_iff {o : Option i.value} (h : i.Holds given o) :
    o.isSome = true ↔ ∃ g, (i.name, g) ∈ given := by
  cases o with
  | none =>
    constructor
    · intro hsome
      cases hsome
    · rintro ⟨g, hg⟩
      exact absurd (List.mem_map_of_mem (f := Prod.fst) hg) h
  | some a =>
    obtain ⟨g, hg, -⟩ := h
    exact ⟨fun _ => ⟨g, hg⟩, fun _ => rfl⟩

namespace Section

/-- **The items of a section do not get into each other's way**, and are all there is to it. -/
structure Lawful (s : Section σ α) : Prop where
  names : (s.items.map Item.name).Nodup
  start : ∀ i ∈ s.items, i.get s.start = none
  same : ∀ i ∈ s.items, ∀ d a, i.get (i.put d a) = some a
  other : ∀ i ∈ s.items, ∀ j ∈ s.items, i.name ≠ j.name → ∀ d a, j.get (i.put d a) = j.get d
  ext : ∀ d d' : σ, (∀ i ∈ s.items, i.get d = i.get d') → d = d'
  plain : ∀ i ∈ s.items, i.kind.Plain

/-- This may be given for items of the section, at most once for each. -/
structure Admits (s : Section σ α) (given : List (String × Given)) : Prop where
  nodup : (given.map Prod.fst).Nodup
  each : ∀ e ∈ given, ∃ i ∈ s.items, i.name = e.1 ∧ i.kind.Admits e.2

/-- No number is too large for its item. -/
def Fits (s : Section σ α) (given : List (String × Given)) : Prop :=
  ∀ i ∈ s.items, ∀ g, (i.name, g) ∈ given → i.kind.Fits g

/-- Every item holds what is given for it. -/
def Holds (s : Section σ α) (given : List (String × Given)) (d : σ) : Prop :=
  ∀ i ∈ s.items, i.Holds given (i.get d)

/-- **The section that given items make.** -/
def Gives (s : Section σ α) (given : List (String × Given)) (a : α) : Prop :=
  ∃ d, s.Holds given d ∧ s.finish d = .ok a

/-- Given items as the texts of variables. -/
def words (given : List (String × Given)) : List (String × Tree) :=
  given.map fun e => (e.1, .text e.2.word)

/-- An object with the given items as its members, in any order. -/
def Shows (given : List (String × Given)) (v : Bytes) : Prop :=
  ∃ members given', IsObject v members ∧ given'.Perm given ∧
    Json.Named (fun u g => g.Shown u) members given'

theorem readEntries_eq (s : Section σ α) (d : σ) (entries : List (String × Tree)) :
    s.readEntries d entries = fill (s.items.map Item.place) d entries := by
  induction entries generalizing d with
  | nil => rfl
  | cons x entries ih =>
    obtain ⟨k, t⟩ := x
    have hplaces : (s.items.map Item.place).find? (fun p => p.slot.name = k) =
        (s.items.find? fun i => i.name = k).map Item.place := List.find?_map
    rw [readEntries, fill, hplaces]
    cases hfind : s.items.find? fun i => i.name = k with
    | none => exact ih d
    | some i =>
      obtain rfl : i.name = k := by simpa using List.find?_some hfind
      simp only [Option.map_some, Item.ofTree, Item.place]
      cases i.kind.ofTree t with
      | error e => rfl
      | ok a => exact ih (i.put d a)

/-- What is given for an item is given once. -/
theorem Admits.unique {g g' : Given} {n : String} (A : s.Admits given) (h : (n, g) ∈ given)
    (h' : (n, g') ∈ given) : g = g' :=
  congrArg Prod.snd (List.inj_on_of_nodup_map A.nodup h h' rfl)

theorem Lawful.table (L : s.Lawful) : s.schema.Table (s.items.map Item.slot) where
  members := by
    rw [List.map_map]
    rfl
  names := by
    rw [List.map_map]
    exact L.names
  start := List.forall_mem_map.mpr L.start
  same := List.forall_mem_map.mpr L.same
  other := List.forall_mem_map.mpr fun i hi => List.forall_mem_map.mpr fun j hj => L.other i hi j hj

theorem Lawful.eq_of_name {i j : Item σ} (L : s.Lawful) (hi : i ∈ s.items) (hj : j ∈ s.items)
    (h : i.name = j.name) : i = j := List.inj_on_of_nodup_map L.names hi hj h

/-- An item may be given what is given under its name. -/
theorem Admits.kind {g : Given} (A : s.Admits given) (L : s.Lawful) (hi : i ∈ s.items)
    (h : (i.name, g) ∈ given) : i.kind.Admits g := by
  obtain ⟨j, hj, hname, hadmits⟩ := A.each _ h
  obtain rfl := L.eq_of_name hj hi hname
  exact hadmits

/-- An item for which something is given holds what it means. -/
theorem Admits.holds {g : Given} {o : Option i.value} (A : s.Admits given) (h : i.Holds given o)
    (hg : (i.name, g) ∈ given) : ∃ a, o = some a ∧ i.kind.Means g a := by
  cases o with
  | none => exact absurd (List.mem_map_of_mem (f := Prod.fst) hg) h
  | some a =>
    obtain ⟨g', hg', ha⟩ := h
    obtain rfl := A.unique hg hg'
    exact ⟨a, rfl, ha⟩

/-- What is given determines what the items hold. -/
theorem Holds.unique (L : s.Lawful) (A : s.Admits given) (h : s.Holds given d)
    (h' : s.Holds given d') : d = d' := by
  refine L.ext d d' fun i hi => ?_
  by_cases hgiven : ∃ g, (i.name, g) ∈ given
  · obtain ⟨g, hg⟩ := hgiven
    obtain ⟨a, hget, ha⟩ := A.holds (h i hi) hg
    obtain ⟨b, hget', hb⟩ := A.holds (h' i hi) hg
    rw [hget, hget', ha.unique hb]
  · have hnone : i.get d = none := by
      simpa using mt (h i hi).isSome_iff.mp hgiven
    have hnone' : i.get d' = none := by
      simpa using mt (h' i hi).isSome_iff.mp hgiven
    rw [hnone, hnone']

/-- What an item holds fits it. -/
theorem Holds.fits (L : s.Lawful) (A : s.Admits given) (h : s.Holds given d) : s.Fits given := by
  intro i hi g hg
  obtain ⟨a, -, ha⟩ := A.holds (h i hi) hg
  exact (Kind.exists_means (A.kind L hi hg)).mp ⟨a, ha⟩

theorem Gives.fits (L : s.Lawful) (A : s.Admits given) (h : s.Gives given a) : s.Fits given := by
  obtain ⟨d, hd, -⟩ := h
  exact hd.fits L A

theorem Gives.unique {b : α} (L : s.Lawful) (A : s.Admits given) (h : s.Gives given a)
    (h' : s.Gives given b) : a = b := by
  obtain ⟨d, hd, ha⟩ := h
  obtain ⟨d', hd', hb⟩ := h'
  obtain rfl := hd.unique L A hd'
  rw [ha] at hb
  exact Except.ok.inj hb

/-- Nothing makes what a section is from the start. -/
theorem gives_nil (L : s.Lawful) : s.Gives [] a ↔ s.finish s.start = .ok a := by
  have hstart : s.Holds [] s.start := by
    intro i hi
    rw [L.start i hi]
    exact List.not_mem_nil
  have hadmits : s.Admits [] := ⟨List.nodup_nil, by simp⟩
  constructor
  · rintro ⟨d, hd, ha⟩
    obtain rfl := hd.unique L hadmits hstart
    exact ha
  · exact fun ha => ⟨_, hstart, ha⟩

/-! ### From a tree -/

theorem map_words (given : List (String × Given)) :
    (words given).map Prod.fst = given.map Prod.fst := by
  rw [words, List.map_map]
  rfl

theorem mem_words {n : String} {t : Tree} (h : (n, t) ∈ words given) :
    ∃ g, (n, g) ∈ given ∧ t = .text g.word := by
  obtain ⟨e, he, heq⟩ := List.mem_map.mp h
  cases heq
  exact ⟨e.2, he, rfl⟩

theorem place_table (L : s.Lawful) : s.schema.Table ((s.items.map Item.place).map Place.slot) := by
  rw [List.map_map]
  exact L.table

/-- Texts that fit are read into the items. -/
theorem readEntries_words (L : s.Lawful) (A : s.Admits given) (F : s.Fits given) :
    ∃ d, s.Holds given d ∧ s.readEntries s.start (words given) = .ok d := by
  have hread : ∀ i ∈ s.items, ∀ g, (i.name, g) ∈ given → ∃ a, i.kind.Means g a ∧
      i.place.read (.text g.word) = .ok a := by
    intro i hi g hg
    obtain ⟨a, ha⟩ := (Kind.exists_means (A.kind L hi hg)).mpr (F i hi g hg)
    refine ⟨a, ha, ?_⟩
    simp only [Item.place, Kind.ofTree_of_means (L.plain i hi) ha]
    rfl
  have hnodup : ((words given).map Prod.fst).Nodup := by
    rw [map_words]
    exact A.nodup
  have hplace : ∀ p ∈ s.items.map Item.place, ∀ t, (p.slot.name, t) ∈ words given →
      ∃ a, p.read t = .ok a := by
    intro p hp t ht
    obtain ⟨i, hi, rfl⟩ := List.mem_map.mp hp
    obtain ⟨g, hg, rfl⟩ := mem_words ht
    obtain ⟨a, -, ha⟩ := hread i hi g hg
    exact ⟨a, ha⟩
  obtain ⟨d, hd, hplaces⟩ := fill_ok (place_table L) (d := s.start) hnodup hplace
  refine ⟨d, fun i hi => ?_, by rw [readEntries_eq]; exact hd⟩
  rcases hplaces i.place (List.mem_map_of_mem hi) with ⟨hnot, hget⟩ | ⟨t, a, ht, ha, hget⟩
  · have hstart : i.get s.start = none := L.start i hi
    have hget : i.get d = none := hget.trans hstart
    rw [map_words] at hnot
    rw [hget]
    exact hnot
  · have hget : i.get d = some a := hget
    obtain ⟨g, hg, rfl⟩ := mem_words ht
    obtain ⟨b, hmeans, hb⟩ := hread i hi g hg
    rw [hb] at ha
    cases ha
    rw [hget]
    exact ⟨g, hg, hmeans⟩

/-- **A section is read from the texts of its items.** -/
theorem ofTree_of_gives (L : s.Lawful) (A : s.Admits given) (h : s.Gives given a) :
    s.ofTree (.table (words given)) = .ok a := by
  obtain ⟨d, hd, ha⟩ := h
  obtain ⟨d', hd', hread⟩ := readEntries_words L A (hd.fits L A)
  obtain rfl := hd.unique L A hd'
  simp only [ofTree, hread, close, ha]
  rfl

/-- **Texts that make no section are refused.** -/
theorem ofTree_of_not_gives (L : s.Lawful) (A : s.Admits given) (h : ∀ a, ¬ s.Gives given a) :
    ∃ e, s.ofTree (.table (words given)) = .error e := by
  by_cases F : s.Fits given
  · obtain ⟨d, hd, hread⟩ := readEntries_words L A F
    cases hfinish : s.finish d with
    | ok a => exact absurd ⟨d, hd, hfinish⟩ (h a)
    | error name =>
      simp only [ofTree, hread, close, hfinish]
      exact ⟨_, rfl⟩
  · simp only [Fits, not_forall] at F
    obtain ⟨i, hi, g, hg, hfit⟩ := F
    obtain ⟨e, he⟩ := Kind.ofTree_of_not_fits (A.kind L hi hg) hfit
    have hword : (i.name, Tree.text g.word) ∈ words given :=
      List.mem_map_of_mem (f := fun e : String × Given => (e.1, Tree.text e.2.word)) hg
    have hrefused : i.place.read (.text g.word) = .error (e.within i.name) := by
      simp only [Item.place, he]
      rfl
    obtain ⟨e', he'⟩ := fill_error (place_table L) (d := s.start) (List.mem_map_of_mem hi) hword
      hrefused
    rw [← readEntries_eq] at he'
    simp only [ofTree, he']
    exact ⟨_, rfl⟩

/-! ### From an object -/

/-- Given items as they are written in an object. -/
def write (given : List (String × Given)) : List Char :=
  Json.writeObject (given.map fun e => (e.1, e.2.write))

theorem values_write (given : List (String × Given)) :
    ∀ m ∈ given.map fun e => (e.1, e.2.write), Json.IsValue (Utf8.encodeChars m.2) := by
  intro m hm
  obtain ⟨e, -, rfl⟩ := List.mem_map.mp hm
  exact e.2.value_write

theorem shows_write (given : List (String × Given)) :
    Shows given (Utf8.encodeChars (write given)) := by
  refine ⟨_, given, Json.isObject_written (values_write given), .refl _, ?_⟩
  rw [Json.Named, List.map_map, List.forall₂_map_left_iff, List.forall₂_same]
  exact fun e _ => ⟨rfl, e.2.shown_write⟩

section
variable (L : s.Lawful) (A : s.Admits given) {members : List (String × Bytes)}
  {given' : List (String × Given)} (hv : IsObject v members) (hperm : given'.Perm given)
  (hn : Json.Named (fun u g => g.Shown u) members given')
include L A hperm hn

/-- A member with a name of the section shows what is given for the item. -/
theorem member_shown {u : Bytes} (hi : i ∈ s.items) (hu : (i.name, u) ∈ members) :
    ∃ g, (i.name, g) ∈ given ∧ i.kind.Admits g ∧ g.Shown u := by
  obtain ⟨g, hg, hshown⟩ := hn.content hu
  have hg := hperm.mem_iff.mp hg
  exact ⟨g, hg, A.kind L hi hg, hshown⟩

include hv

/-- Members that fit are read into the items. -/
theorem reads_object (F : s.Fits given) : ∃ d, s.Holds given d ∧
    (∀ a, s.finish d = .ok a → s.schema.reader.Takes v a) ∧
    ∀ name, s.finish d = .error name → s.schema.reader.Refuses v := by
  have htaken : ∀ i ∈ s.items, ∀ u, (i.name, u) ∈ members → ∃ g a, (i.name, g) ∈ given ∧
      i.kind.Means g a ∧ i.kind.reader.Takes u a := by
    intro i hi u hu
    obtain ⟨g, hg, hadmits, hshown⟩ := member_shown L A hperm hn hi hu
    obtain ⟨a, ha⟩ := (Kind.exists_means hadmits).mpr (F i hi g hg)
    exact ⟨g, a, hg, ha, Kind.takes_of_means (L.plain i hi) ha hshown⟩
  have honce : ∀ n, (members.map Prod.fst).count n ≤ 1 := by
    intro n
    rw [hn.names_eq, (hperm.map Prod.fst).count_eq]
    exact List.nodup_iff_count_le_one.mp A.nodup n
  obtain ⟨d, hfound, htakes, hrefuses⟩ := L.table.takes hv (fun i _ => honce i.name) (by
    intro x hx u hu
    obtain ⟨i, hi, rfl⟩ := List.mem_map.mp hx
    obtain ⟨-, a, -, -, ha⟩ := htaken i hi u hu
    exact ⟨a, ha⟩)
  refine ⟨d, fun i hi => ?_, htakes, hrefuses⟩
  have hslot : i.slot.Found members (i.get d) := hfound i.slot (List.mem_map_of_mem hi)
  cases hget : i.get d with
  | none =>
    rw [hget] at hslot
    have hnot : i.name ∉ members.map Prod.fst := hslot
    rw [hn.names_eq, (hperm.map Prod.fst).mem_iff] at hnot
    exact hnot
  | some a =>
    rw [hget] at hslot
    obtain ⟨u, hu, ha⟩ := hslot
    obtain ⟨g, b, hg, hb, htakes⟩ := htaken i hi u hu
    obtain rfl : a = b := Json.Reader.Takes.unique ha htakes
    exact ⟨g, hg, hb⟩

/-- An object with a member that does not fit is refused. -/
theorem refuses_object (F : ¬ s.Fits given) : s.schema.reader.Refuses v := by
  simp only [Fits, not_forall] at F
  obtain ⟨i, hi, g, hg, hfit⟩ := F
  refine L.table.refuses hv ?_ ⟨i.slot, List.mem_map_of_mem hi, .inr ?_⟩
  · intro x hx u hu
    obtain ⟨j, hj, rfl⟩ := List.mem_map.mp hx
    obtain ⟨g', -, hadmits, hshown⟩ := member_shown L A hperm hn hj hu
    by_cases hfit' : j.kind.Fits g'
    · obtain ⟨a, ha⟩ := (Kind.exists_means hadmits).mpr hfit'
      exact .inl ⟨a, Kind.takes_of_means (L.plain j hj) ha hshown⟩
    · exact .inr (Kind.refuses_of_not_fits hadmits hfit' hshown)
  · obtain ⟨u, hu, hshown⟩ := hn.member (hperm.mem_iff.mpr hg)
    exact ⟨u, hu, Kind.refuses_of_not_fits (A.kind L hi hg) hfit hshown⟩

end

/-- **A section is read from an object with its items.** -/
theorem takes_of_gives (L : s.Lawful) (A : s.Admits given) (hv : Shows given v)
    (h : s.Gives given a) : s.schema.reader.Takes v a := by
  obtain ⟨members, given', hobject, hperm, hn⟩ := hv
  obtain ⟨d, hd, ha⟩ := h
  obtain ⟨d', hd', htakes, -⟩ := reads_object L A hobject hperm hn (hd.fits L A)
  obtain rfl := hd.unique L A hd'
  exact htakes a ha

/-- **An object that makes no section is refused.** -/
theorem refuses_of_not_gives (L : s.Lawful) (A : s.Admits given) (hv : Shows given v)
    (h : ∀ a, ¬ s.Gives given a) : s.schema.reader.Refuses v := by
  obtain ⟨members, given', hobject, hperm, hn⟩ := hv
  by_cases F : s.Fits given
  · obtain ⟨d, hd, -, hrefuses⟩ := reads_object L A hobject hperm hn F
    cases hfinish : s.finish d with
    | ok a => exact absurd ⟨d, hd, hfinish⟩ (h a)
    | error name => exact hrefuses name hfinish
  · exact refuses_object L A hobject hperm hn F

end Section

end OutboxProvisioning.Settings
