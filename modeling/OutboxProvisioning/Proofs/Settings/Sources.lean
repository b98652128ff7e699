import Mathlib.Data.List.TakeWhile
import OutboxProvisioning.Proofs.Settings.Assignment
import OutboxProvisioning.Proofs.Table

/-!
# Settings from two sources

Settings come from variables, each under a name of its own, or from one object of JSON. The same
values give the same settings from both, or are refused by both.
-/

namespace OutboxProvisioning.Settings

open Json (IsObject IsText Slot)

variable {a : Assignment} {c : Char} {cs k n : List Char} {d : Draft} {s : Settings} {t : Tree}
  {text v : Bytes}

/-! ## Names of variables -/

/-- The characters of names. -/
def letters : List Char := "abcdefghijklmnopqrstuvwxyz_".toList

/-- What is checked for each character of a list holds for all of them. -/
theorem forall_of_all {P : Char → Prop} [DecidablePred P]
    (h : (cs.all fun c => decide (P c)) = true) : ∀ c ∈ cs, P c :=
  fun c hc => of_decide_eq_true (List.all_eq_true.mp h c hc)

theorem lowerChar_letter : ∀ c ∈ letters, Text.lowerChar c.toUpper = [c] :=
  forall_of_all (by decide +kernel)

theorem inName_letter : ∀ c ∈ letters, Path.inName c = true := forall_of_all (by decide +kernel)

/-- Small letters come back from capitals. -/
theorem lowerAfter_capitals (before : List Char) (h : ∀ c ∈ cs, c ∈ letters) :
    Text.lowerAfter before (cs.map Char.toUpper) = cs := by
  induction cs generalizing before with
  | nil => rfl
  | cons c cs ih =>
    obtain ⟨hc, hcs⟩ := List.forall_mem_cons.mp h
    have hsigma : ∀ c ∈ letters, decide (c.toUpper = 'Σ') = false :=
      forall_of_all (by decide +kernel)
    rw [List.map_cons, Text.lowerAfter, ih _ hcs, hsigma c hc, lowerChar_letter c hc]
    rfl

theorem takeWhile_inName (h : ∀ c ∈ n, c ∈ letters) (r : List Char) :
    (n ++ '.' :: r).takeWhile Path.inName = n := by
  rw [List.takeWhile_append_of_pos fun c hc => inName_letter c (h c hc)]
  exact List.append_nil n

/-- Two names with a point between them are a path of two steps. -/
theorem ofKey_two (hk : ∀ c ∈ k, c ∈ letters) (hn : ∀ c ∈ n, c ∈ letters) (hk' : k ≠ [])
    (hn' : n ≠ []) : Path.ofKey (String.ofList (k ++ '.' :: n)) =
      [.child (String.ofList k), .child (String.ofList n)] := by
  have htake : n.takeWhile Path.inName = n :=
    List.takeWhile_eq_self_iff.mpr fun c hc => inName_letter c (hn c hc)
  have hsteps : Path.steps? ('.' :: n) = some [.child (String.ofList n)] := by
    rw [Path.steps?]
    simp only [if_true, htake, List.isEmpty_eq_false_iff.mpr hn', Bool.false_eq_true, if_false,
      List.drop_length, Path.steps?]
    rfl
  simp only [Path.ofKey, Path.ofString?, String.toList_ofList, takeWhile_inName hk,
    List.isEmpty_eq_false_iff.mpr hk', Bool.false_eq_true, if_false, List.drop_left', hsteps]
  rfl

theorem toList_capitals {start mark k n : String} {bs ms : List Char}
    (hstart : start.toList = bs.map Char.toUpper) (hmark : mark.toList = ms.map Char.toUpper) :
    (start ++ k.toUpper ++ mark ++ n.toUpper).toList =
      (bs ++ (k.toList ++ (ms ++ n.toList))).map Char.toUpper := by
  have hupper : ∀ s : String, s.toUpper.toList = s.toList.map Char.toUpper :=
    fun s => String.toList_map
  simp only [String.toList_append, hupper, hstart, hmark, List.map_append, List.append_assoc]

/-- The name of a variable in small letters. -/
theorem lowercase_variableName {x : String × String} (hk : ∀ c ∈ x.1.toList, c ∈ letters)
    (hn : ∀ c ∈ x.2.toList, c ∈ letters) : (Text.lowercase (variableName x)).toList =
      nameStart ++ (x.1.toList ++ '_' :: '_' :: x.2.toList) := by
  have hstart : "BILLING_PROVISIONER__".toList = nameStart.map Char.toUpper := by decide +kernel
  have hmark : "__".toList = ['_', '_'].map Char.toUpper := by decide +kernel
  have hname : (variableName x).toList =
      (nameStart ++ (x.1.toList ++ (['_', '_'] ++ x.2.toList))).map Char.toUpper :=
    toList_capitals hstart hmark
  have hletters : ∀ c ∈ nameStart ++ (x.1.toList ++ '_' :: '_' :: x.2.toList), c ∈ letters := by
    have hplain : ∀ c ∈ nameStart, c ∈ letters := forall_of_all (by decide +kernel)
    have hunderscore : '_' ∈ letters := by decide
    simp only [List.forall_mem_append, List.forall_mem_cons]
    exact ⟨hplain, hk, hunderscore, hunderscore, hn⟩
  rw [Text.lowercase, String.toList_ofList, hname]
  exact lowerAfter_capitals [] hletters

/-- The names of sections and items are letters, with two underscores only between them. -/
theorem names_plain : ∀ p ∈ parts, ∀ i ∈ p.layout.items,
    (p.key.toList.all fun c => decide (c ∈ letters)) = true ∧
      (i.name.toList.all fun c => decide (c ∈ letters)) = true ∧
        p.key.toList ≠ [] ∧ i.name.toList ≠ [] ∧
          dotted (p.key.toList ++ '_' :: '_' :: i.name.toList) =
            p.key.toList ++ '.' :: i.name.toList := by
  decide +kernel

/-- **The name of a variable is the path of its item.** -/
theorem path_of_variable {p : Part} {i : Item p.σ} (hp : p ∈ parts) (hi : i ∈ p.layout.items) :
    (key? (variableName (p.key, i.name))).map Path.ofKey =
      some [.child p.key, .child i.name] := by
  obtain ⟨hk, hn, hk', hn', hdotted⟩ := names_plain p hp i hi
  have hk := forall_of_all hk
  have hn := forall_of_all hn
  have hstart : nameStart.isPrefixOf
      (nameStart ++ (p.key.toList ++ '_' :: '_' :: i.name.toList)) = true := by simp
  have hpath := ofKey_two hk hn hk' hn'
  rw [String.ofList_toList, String.ofList_toList] at hpath
  simp only [key?, lowercase_variableName (x := (p.key, i.name)) hk hn, hstart, if_true,
    List.drop_left', hdotted, Option.map_some, hpath]

/-! ## From variables -/

variable {given : List ((String × String) × Given)} {x : String × String} {g : Given}

/-- What stands in a tree for a section. -/
def sectionTree (given : List ((String × String) × Given)) (key : String) : Option Tree :=
  if inSection given key = [] then none else some (.table (Section.words (inSection given key)))

/-- The tree holds the texts of these items, each in its section. -/
def Grown (given : List ((String × String) × Given)) (t : Tree) : Prop :=
  ∃ T : Table String Tree, t = .table T.entries ∧ ∀ key, T.find? key = sectionTree given key

theorem Grown.child (h : Grown given t) (key : String) :
    (t.child key).entries = Section.words (inSection given key) := by
  obtain ⟨T, rfl, hfind⟩ := h
  have hchild : Tree.child (.table T.entries) key = (T.find? key).getD .nothing := rfl
  rw [hchild, hfind, sectionTree]
  split
  · next hnil =>
    rw [hnil]
    rfl
  · rfl

/-- An item that is new comes last in its section. -/
theorem inSection_append (given : List ((String × String) × Given)) (x : String × String)
    (g : Given) (key : String) : inSection (given ++ [(x, g)]) key =
      inSection given key ++ if key = x.1 then [(x.2, g)] else [] := by
  rw [inSection, List.filterMap_append, ← inSection]
  congr 1
  by_cases hkey : key = x.1
  · simp [hkey]
  · simp [hkey, Ne.symm hkey]

/-- The variable of a new item puts its text into the tree. -/
theorem Grown.step (h : Grown given t) (hfresh : x ∉ given.map Prod.fst)
    (hpath : (key? (variableName x)).map Path.ofKey = some [.child x.1, .child x.2]) :
    ∃ t', place t (variableName x, g.word) = .ok t' ∧ Grown (given ++ [(x, g)]) t' := by
  obtain ⟨key, hkey, hsteps⟩ := Option.map_eq_some_iff.mp hpath
  have hnew : x.2 ∉ (Section.words (inSection given x.1)).map Prod.fst := by
    rw [Section.map_words]
    intro hmem
    obtain ⟨⟨n, g'⟩, hg', rfl⟩ := List.mem_map.mp hmem
    exact hfresh (List.mem_map_of_mem (f := Prod.fst) (mem_inSection.mp hg'))
  -- the text is put behind those of its section, and the section where it was, or last
  have hassign : Tree.assign (.text g.word) [.child x.1, .child x.2] t =
      some (.table (putEntry x.1 (.table (putEntry x.2 (.text g.word) (t.child x.1).entries))
        t.entries)) := rfl
  rw [h.child, Table.putEntry_of_not_mem hnew] at hassign
  refine ⟨_, by simp only [place, hkey, hsteps, hassign]; rfl, ?_⟩
  obtain ⟨T, rfl, hfind⟩ := h
  refine ⟨T.insert x.1 _, rfl, fun key => ?_⟩
  rw [Table.find?_insert, sectionTree, inSection_append]
  by_cases hx : key = x.1
  · subst hx
    simp [Section.words]
  · simp [hx, hfind, sectionTree]

/-- **The variables of an assignment put their texts into the tree.** -/
theorem grown_variables {done rest : List ((String × String) × Given)} (h : Grown done t)
    (hnodup : ((done ++ rest).map Prod.fst).Nodup)
    (hpath : ∀ e ∈ rest, (key? (variableName e.1)).map Path.ofKey =
      some [.child e.1.1, .child e.1.2]) :
    ∃ t', (rest.map fun e => (variableName e.1, e.2.word)).foldlM place t = .ok t' ∧
      Grown (done ++ rest) t' := by
  induction rest generalizing done t with
  | nil => exact ⟨t, rfl, by rwa [List.append_nil]⟩
  | cons e rest ih =>
    obtain ⟨he, hpath⟩ := List.forall_mem_cons.mp hpath
    have hfresh : e.1 ∉ done.map Prod.fst := by
      intro hmem
      rw [List.map_append, List.nodup_append] at hnodup
      exact hnodup.2.2 _ hmem _ List.mem_cons_self rfl
    obtain ⟨t₁, hplace, hgrown⟩ := h.step (g := e.2) hfresh he
    have hsplit : done ++ [(e.1, e.2)] ++ rest = done ++ e :: rest := by simp
    obtain ⟨t', hfold, hgrown'⟩ := ih hgrown (by rw [hsplit]; exact hnodup) hpath
    rw [hsplit] at hgrown'
    refine ⟨t', ?_, hgrown'⟩
    rw [List.map_cons, List.foldlM_cons, hplace]
    exact hfold

theorem exists_tree (a : Assignment) :
    ∃ t, a.asVariables.foldlM place .empty = .ok t ∧ Grown a.given t := by
  have hempty : Grown [] .empty := ⟨Table.empty, rfl, fun _ => rfl⟩
  refine grown_variables hempty (by rw [List.nil_append]; exact a.nodup) fun e he => ?_
  obtain ⟨⟨key, n⟩, g⟩ := e
  obtain ⟨p, hp, rfl, i, hi, rfl, -⟩ := a.admits _ he
  exact path_of_variable hp hi

/-- The sections of the tree are those for which something is given, with its texts. -/
theorem mem_sections {T : Table String Tree} (h : ∀ key, T.find? key = sectionTree given key)
    {key : String} {u : Tree} : (key, u) ∈ T.entries ↔
      inSection given key ≠ [] ∧ u = .table (Section.words (inSection given key)) := by
  rw [← Table.find?_eq_some_iff, h, sectionTree]
  split
  · next hnil => simp [hnil]
  · next hne => simp [hne, eq_comm]

section
variable {p : Part} (hp : p ∈ parts)
include hp

/-- A section that is made is read in its place. -/
theorem read_of_gives {v : p.α} (h : p.layout.Gives (inSection a.given p.key) v) :
    p.place.read (.table (Section.words (inSection a.given p.key))) = .ok v := by
  simp only [Part.place, Section.ofTree_of_gives (Part.lawful p hp) (a.section_admits hp) h]
  rfl

/-- A section that is not made is refused in its place. -/
theorem read_of_not_gives (h : ∀ v, ¬ p.layout.Gives (inSection a.given p.key) v) :
    ∃ e, p.place.read (.table (Section.words (inSection a.given p.key))) = .error e := by
  obtain ⟨e, he⟩ := Section.ofTree_of_not_gives (Part.lawful p hp) (a.section_admits hp) h
  simp only [Part.place, he]
  exact ⟨_, rfl⟩

end

/-- **What becomes of the tree**: its sections are read as the assignment makes them, or one that
is not made is refused. -/
theorem readSections_cases (h : Grown a.given t) :
    (∃ d, a.Reads d ∧ readSections ⟨none, none, none⟩ t.entries = .ok d) ∨
      (∃ e, readSections ⟨none, none, none⟩ t.entries = .error e) ∧ ∀ s, ¬ a.Gives s := by
  obtain ⟨T, rfl, hfind⟩ := h
  rw [readSections_eq]
  by_cases hall : ∀ p ∈ parts, ∀ u, (p.key, u) ∈ T.entries →
      ∃ v, p.layout.Gives (inSection a.given p.key) v
  · have hread : ∀ p ∈ parts, ∀ u, (p.key, u) ∈ T.entries →
        ∃ v, p.layout.Gives (inSection a.given p.key) v ∧ p.place.read u = .ok v := by
      intro p hp u hu
      obtain ⟨v, hv⟩ := hall p hp u hu
      obtain ⟨-, rfl⟩ := (mem_sections hfind).mp hu
      exact ⟨v, hv, read_of_gives hp hv⟩
    obtain ⟨d, hd, hplaces⟩ := fill_ok Part.place_table (d := ⟨none, none, none⟩) T.nodup (by
      intro q hq u hu
      obtain ⟨p, hp, rfl⟩ := List.mem_map.mp hq
      obtain ⟨v, -, hv⟩ := hread p hp u hu
      exact ⟨v, hv⟩)
    refine .inl ⟨d, fun p hp => ?_, hd⟩
    rcases hplaces p.place (List.mem_map_of_mem hp) with ⟨hnot, hget⟩ | ⟨u, v, hu, hv, hget⟩
    · -- the tree has no such section, so nothing is given for it
      refine .inl ⟨hget.trans (Part.table.start p.slot (List.mem_map_of_mem hp)), ?_⟩
      by_contra hne
      have hmem := (mem_sections hfind).mpr ⟨hne, rfl⟩
      exact hnot (List.mem_map_of_mem (f := Prod.fst) hmem)
    · obtain ⟨w, hw, hread⟩ := hread p hp u hu
      rw [hread] at hv
      cases hv
      exact .inr ⟨v, hget, hw⟩
  · simp only [not_forall, not_exists] at hall
    obtain ⟨p, hp, u, hu, hnone⟩ := hall
    obtain ⟨-, rfl⟩ := (mem_sections hfind).mp hu
    obtain ⟨e, he⟩ := read_of_not_gives hp hnone
    exact .inr ⟨fill_error Part.place_table (List.mem_map_of_mem hp) hu he,
      fun s hs => hnone _ (hs p hp)⟩

/-! ## From an object -/

/-- An assignment as it is written in JSON, with all three sections. -/
def Assignment.write (a : Assignment) : List Char :=
  Json.writeObject (parts.map fun p => (p.key, Section.write (inSection a.given p.key)))

/-- Every assignment can be written in JSON. -/
theorem Assignment.shown_write (a : Assignment) : a.Shown (Utf8.encodeChars a.write) := by
  have hvalues : ∀ m ∈ parts.map fun p => (p.key, Section.write (inSection a.given p.key)),
      Json.IsValue (Utf8.encodeChars m.2) := by
    intro m hm
    obtain ⟨p, -, rfl⟩ := List.mem_map.mp hm
    exact Json.value_object (Section.values_write _)
  refine ⟨_, Json.isObject_written hvalues, ?_, ?_, ?_⟩
  · rw [List.map_map, List.map_map]
    exact (by decide : (parts.map Part.key).Nodup)
  · intro m hm
    rw [List.map_map] at hm
    obtain ⟨p, hp, rfl⟩ := List.mem_map.mp hm
    exact ⟨⟨p, hp, rfl⟩, Section.shows_write _⟩
  · intro e he
    obtain ⟨p, hp, hkey, -⟩ := a.admits e he
    rw [List.map_map, List.map_map]
    exact hkey ▸ List.mem_map_of_mem (f := Part.key) hp

/-- **What becomes of the object**: its sections are read as the assignment makes them, or one that
is not made is refused. -/
theorem object_cases (hv : a.Shown v) :
    (∃ d, a.Reads d ∧ (∀ s, ofDraft d = .ok s → reader.Takes v s) ∧
      ∀ name, ofDraft d = .error name → reader.Refuses v) ∨
      reader.Refuses v ∧ ∀ s, ¬ a.Gives s := by
  obtain ⟨members, hobject, hnodup, heach, hpresent⟩ := hv
  have htakes : ∀ p ∈ parts, ∀ u, (p.key, u) ∈ members → ∀ v,
      p.layout.Gives (inSection a.given p.key) v → p.slot.reader.Takes u v := fun p hp u hu v hv =>
    Section.takes_of_gives (Part.lawful p hp) (a.section_admits hp) (heach _ hu).2 hv
  have hrefuses : ∀ p ∈ parts, ∀ u, (p.key, u) ∈ members →
      (∀ v, ¬ p.layout.Gives (inSection a.given p.key) v) → p.slot.reader.Refuses u :=
    fun p hp u hu hnone =>
      Section.refuses_of_not_gives (Part.lawful p hp) (a.section_admits hp) (heach _ hu).2 hnone
  by_cases hall : ∀ p ∈ parts, ∀ u, (p.key, u) ∈ members →
      ∃ v, p.layout.Gives (inSection a.given p.key) v
  · obtain ⟨d, hfound, hread, hmissing⟩ := Part.table.takes hobject
      (fun i _ => List.nodup_iff_count_le_one.mp hnodup i.name) (by
        intro i hi u hu
        obtain ⟨p, hp, rfl⟩ := List.mem_map.mp hi
        obtain ⟨v, hv⟩ := hall p hp u hu
        exact ⟨v, htakes p hp u hu v hv⟩)
    refine .inl ⟨d, fun p hp => ?_, hread, hmissing⟩
    have hslot : p.slot.Found members (p.get d) := hfound p.slot (List.mem_map_of_mem hp)
    cases hget : p.get d with
    | none =>
      -- a section for which something is given is a member
      rw [hget] at hslot
      refine .inl ⟨rfl, List.eq_nil_iff_forall_not_mem.mpr ?_⟩
      rintro ⟨n, g⟩ hg
      exact hslot (hpresent _ (mem_inSection.mp hg))
    | some w =>
      rw [hget] at hslot
      obtain ⟨u, hu, hw⟩ := hslot
      obtain ⟨v, hv⟩ := hall p hp u hu
      obtain rfl : w = v := Json.Reader.Takes.unique hw (htakes p hp u hu v hv)
      exact .inr ⟨w, rfl, hv⟩
  · simp only [not_forall, not_exists] at hall
    obtain ⟨p, hp, u, hu, hnone⟩ := hall
    refine .inr ⟨Part.table.refuses hobject ?_ ⟨p.slot, List.mem_map_of_mem hp, .inr ⟨u, hu,
      hrefuses p hp u hu hnone⟩⟩, fun s hs => hnone _ (hs p hp)⟩
    -- every other section is taken or refused, too, so none of them hides the one that is refused
    intro i hi w hw
    obtain ⟨q, hq, rfl⟩ := List.mem_map.mp hi
    by_cases hgives : ∃ v, q.layout.Gives (inSection a.given q.key) v
    · obtain ⟨v, hv⟩ := hgives
      exact .inl ⟨v, htakes q hq w hw v hv⟩
    · exact .inr (hrefuses q hq w hw (not_exists.mp hgives))

/-! ## Both -/

/-- Variables hold the settings that an assignment makes. -/
theorem load_of_gives (h : a.Gives s) : load a.asVariables none = .ok (a.asVariables, s) := by
  obtain ⟨t, hfold, hgrown⟩ := exists_tree a
  rcases readSections_cases hgrown with ⟨d, hd, hread⟩ | ⟨-, hnone⟩
  · have hdraft := hd.ofDraft_iff.mpr h
    simp only [load, ofVariables, hfold, ofTree, hread, hdraft]
    rfl
  · exact absurd h (hnone s)

/-- Variables of an assignment that makes no settings are refused. -/
theorem load_of_not_gives (h : ∀ s, ¬ a.Gives s) : ∃ e, load a.asVariables none = .error e := by
  obtain ⟨t, hfold, hgrown⟩ := exists_tree a
  rcases readSections_cases hgrown with ⟨d, hd, hread⟩ | ⟨⟨e, hread⟩, -⟩
  · cases hdraft : ofDraft d with
    | ok s => exact absurd (hd.ofDraft_iff.mp hdraft) (h s)
    | error name =>
      simp only [load, ofVariables, hfold, ofTree, hread, hdraft]
      exact ⟨_, rfl⟩
  · simp only [load, ofVariables, hfold, ofTree, hread]
    exact ⟨_, rfl⟩

/-- An object holds the settings that an assignment makes. -/
theorem takes_of_gives (hv : a.Shown v) (h : a.Gives s) : reader.Takes v s := by
  rcases object_cases hv with ⟨d, hd, htakes, -⟩ | ⟨-, hnone⟩
  · exact htakes s (hd.ofDraft_iff.mpr h)
  · exact absurd h (hnone s)

/-- An object of an assignment that makes no settings is refused. -/
theorem refuses_of_not_gives (hv : a.Shown v) (h : ∀ s, ¬ a.Gives s) : reader.Refuses v := by
  rcases object_cases hv with ⟨d, hd, -, hrefuses⟩ | ⟨hrefuses, -⟩
  · cases hdraft : ofDraft d with
    | ok s => exact absurd (hd.ofDraft_iff.mp hdraft) (h s)
    | error name => exact hrefuses name hdraft
  · exact hrefuses

/-- **Variables and an object with the same values give the same settings, or both are refused.**
They are refused if the address of the database is missing or a number is too large for its item; a
number is never read as another one. -/
theorem sources_agree (a : Assignment) (ht : IsText v text) (hv : a.Shown v) :
    (a.Complete → ∃ s, a.Gives s ∧ load a.asVariables none = .ok (a.asVariables, s) ∧
      reader.parse text = .ok s) ∧
    (¬ a.Complete → (∃ e, load a.asVariables none = .error e) ∧
      ∃ reason, reader.parse text = .error reason) := by
  rw [a.complete_iff]
  constructor
  · rintro ⟨s, hs⟩
    exact ⟨s, hs, load_of_gives hs, (takes_of_gives hv hs).parse ht⟩
  · intro hnone
    have hnone := not_exists.mp hnone
    exact ⟨load_of_not_gives hnone, (refuses_of_not_gives hv hnone).parse ht⟩

/-- An address and a number of events. -/
def sample : Assignment where
  given := [(("database", "url"), .text "postgres://db"), (("consumer", "batch_size"), .number 50)]
  nodup := by decide
  admits := by
    simp [parts, Part.database, Part.consumer, Part.logging, Database.layout, Consumer.layout,
      Logging.layout, Kind.Admits]

theorem sample_complete : sample.Complete := by
  refine ⟨⟨_, List.mem_cons_self⟩, ?_⟩
  simp [sample, parts, Part.database, Part.consumer, Part.logging, Database.layout, Consumer.layout,
    Logging.layout, Kind.Fits]

theorem sample_sources : ∃ s, load sample.asVariables none = .ok (sample.asVariables, s) ∧
    reader.parse (Utf8.encodeChars sample.write) = .ok s := by
  obtain ⟨s, -, hload, hparse⟩ :=
    (sources_agree sample (Json.isText_bare _) sample.shown_write).1 sample_complete
  exact ⟨s, hload, hparse⟩

/-- The variables and the text of the sample. -/
example : sample.asVariables = [("BILLING_PROVISIONER__DATABASE__URL", "postgres://db"),
      ("BILLING_PROVISIONER__CONSUMER__BATCH_SIZE", "50")] ∧
    String.ofList sample.write = "\x7b\"database\":\x7b\"url\":\"postgres://db\"\x7d," ++
      "\"consumer\":\x7b\"batch_size\":50\x7d,\"logging\":\x7b\x7d\x7d" := by
  decide +kernel

end OutboxProvisioning.Settings
