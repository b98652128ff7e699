import OutboxProvisioning.Proofs.Settings.Section

/-!
# Assignments

An assignment gives values to some of the settings, which are the items of three sections. It can be
written as variables and as an object of JSON, and makes settings if the address of the database is
among its values and no number is too large.

* `parts`: the three sections, and that they do not get into each other's way.
* `Assignment`, `Assignment.Gives`: values for some of the settings, and the settings they make.
* `complete_iff`: **which assignments make settings.**
* `Reads.ofDraft_iff`: sections that have been read make these settings.
-/

namespace OutboxProvisioning.Settings

open Json (IsObject Slot)

variable {d : Draft} {s : Settings}

/-! ## The three sections -/

theorem database_lawful : Database.layout.Lawful where
  names := by decide
  start := by simp [Database.layout]
  same := by simp [Database.layout]
  other := by simp [Database.layout]
  ext := by
    rintro ⟨⟩ ⟨⟩ h
    simpa [Database.layout] using h
  plain := by decide +kernel

theorem consumer_lawful : Consumer.layout.Lawful where
  names := by decide
  start := by simp [Consumer.layout]
  same := by simp [Consumer.layout]
  other := by simp [Consumer.layout]
  ext := by
    rintro ⟨⟩ ⟨⟩ h
    simpa [Consumer.layout] using h
  plain := by decide +kernel

theorem logging_lawful : Logging.layout.Lawful where
  names := by decide
  start := by simp [Logging.layout]
  same := by simp [Logging.layout]
  other := by simp [Logging.layout]
  ext := by
    rintro ⟨⟩ ⟨⟩ h
    simpa [Logging.layout] using h
  plain := by decide +kernel

/-- A section of the settings, and its place among them. -/
structure Part where
  {σ α : Type}
  key : String
  layout : Section σ α
  get : Draft → Option α
  put : Draft → α → Draft
  optional : Bool
  field : Settings → α

namespace Part

/-- The section of the database. -/
def database : Part :=
  ⟨"database", Database.layout, Draft.database, fun d v => { d with database := some v }, false,
    Settings.database⟩

/-- The section of the consumer. -/
def consumer : Part :=
  ⟨"consumer", Consumer.layout, Draft.consumer, fun d v => { d with consumer := some v }, true,
    Settings.consumer⟩

/-- The section of the log. -/
def logging : Part :=
  ⟨"logging", Logging.layout, Draft.logging, fun d v => { d with logging := some v }, true,
    Settings.logging⟩

end Part

/-- The sections of the settings. -/
def parts : List Part := [.database, .consumer, .logging]

theorem forall_parts {P : Part → Prop} :
    (∀ p ∈ parts, P p) ↔ P .database ∧ P .consumer ∧ P .logging := by
  simp [parts]

namespace Part

/-- The place of a section in an object. -/
def slot (p : Part) : Slot Draft := ⟨p.key, p.layout.schema.reader, p.get, p.put, p.optional⟩

/-- The place of a section in a tree. -/
def place (p : Part) : Place Draft :=
  ⟨p.slot, fun t => (p.layout.ofTree t).mapError (.within p.key)⟩

theorem lawful : ∀ p ∈ parts, p.layout.Lawful := by
  exact forall_parts.mpr ⟨database_lawful, consumer_lawful, logging_lawful⟩

/-- **The sections do not get into each other's way.** -/
theorem table : schema.Table (parts.map slot) where
  members := rfl
  names := by decide
  start := by simp [parts, slot, database, consumer, logging, schema]
  same := by simp [parts, slot, database, consumer, logging]
  other := by simp [parts, slot, database, consumer, logging]

theorem place_table : schema.Table ((parts.map place).map Place.slot) := table

theorem eq_of_key {p q : Part} (hp : p ∈ parts) (hq : q ∈ parts) (h : p.key = q.key) : p = q :=
  List.inj_on_of_nodup_map (f := Part.key) (by decide) hp hq h

end Part

theorem readSections_eq (d : Draft) (entries : List (String × Tree)) :
    readSections d entries = fill (parts.map Part.place) d entries := by
  induction entries generalizing d with
  | nil => rfl
  | cons x entries ih =>
    obtain ⟨k, t⟩ := x
    rw [readSections, fill]
    -- one of the three names, or another one
    by_cases hdatabase : k = "database"
    · subst hdatabase
      cases hread : Database.layout.ofTree t <;>
        simp [parts, Part.place, Part.slot, Part.database, hread, Except.map, Except.mapError, ih]
    by_cases hconsumer : k = "consumer"
    · subst hconsumer
      cases hread : Consumer.layout.ofTree t <;>
        simp [parts, Part.place, Part.slot, Part.database, Part.consumer, hread, Except.map,
          Except.mapError, ih]
    by_cases hlogging : k = "logging"
    · subst hlogging
      cases hread : Logging.layout.ofTree t <;>
        simp [parts, Part.place, Part.slot, Part.database, Part.consumer, Part.logging, hread,
          Except.map, Except.mapError, ih]
    · simp [parts, Part.place, Part.slot, Part.database, Part.consumer, Part.logging, hdatabase,
        hconsumer, hlogging, Ne.symm hdatabase, Ne.symm hconsumer, Ne.symm hlogging, ih]

/-! ## Assignments -/

/-- What is given for the items of one section. -/
def inSection (given : List ((String × String) × Given)) (key : String) : List (String × Given) :=
  given.filterMap fun e => if e.1.1 = key then some (e.1.2, e.2) else none

theorem mem_inSection {given : List ((String × String) × Given)} {key n : String} {g : Given} :
    (n, g) ∈ inSection given key ↔ ((key, n), g) ∈ given := by
  rw [inSection, List.mem_filterMap]
  constructor
  · rintro ⟨e, he, h⟩
    split at h
    · next hkey =>
      cases h
      exact hkey ▸ he
    · cases h
  · exact fun h => ⟨_, h, if_pos rfl⟩

/-- The name of the variable for an item of a section. -/
def variableName (x : String × String) : String :=
  "BILLING_PROVISIONER__" ++ x.1.toUpper ++ "__" ++ x.2.toUpper

/-- **Values for some of the settings**, each at most once: what is given for an item, under the
names of its section and the item. -/
structure Assignment where
  given : List ((String × String) × Given)
  nodup : (given.map Prod.fst).Nodup
  admits : ∀ e ∈ given, ∃ p ∈ parts, p.key = e.1.1 ∧
    ∃ i ∈ p.layout.items, i.name = e.1.2 ∧ i.kind.Admits e.2

namespace Assignment

variable (a : Assignment)

/-- The variables of an assignment. -/
def asVariables : Variables := a.given.map fun e => (variableName e.1, e.2.word)

/-- The value in JSON is an object of the given sections, in any order, each of which is an object
of its given items, in any order. A section without any may be left out. -/
def Shown (v : Bytes) : Prop :=
  ∃ members, IsObject v members ∧ (members.map Prod.fst).Nodup ∧
    (∀ m ∈ members, (∃ p ∈ parts, p.key = m.1) ∧ Section.Shows (inSection a.given m.1) m.2) ∧
    ∀ e ∈ a.given, e.1.1 ∈ members.map Prod.fst

/-- The address of the database is given, and no number is too large for its item. -/
def Complete : Prop :=
  (∃ g, (("database", "url"), g) ∈ a.given) ∧
    ∀ p ∈ parts, ∀ i ∈ p.layout.items, ∀ g, ((p.key, i.name), g) ∈ a.given → i.kind.Fits g

/-- **The settings that an assignment makes**: each section is made by what is given for it. -/
def Gives (s : Settings) : Prop :=
  ∀ p ∈ parts, p.layout.Gives (inSection a.given p.key) (p.field s)

/-- The sections that have been read are those that the assignment makes, and where one is missing
nothing is given for it. -/
def Reads (d : Draft) : Prop :=
  ∀ p ∈ parts, (p.get d = none ∧ inSection a.given p.key = []) ∨
    ∃ v, p.get d = some v ∧ p.layout.Gives (inSection a.given p.key) v

variable {a}

theorem section_admits {p : Part} (hp : p ∈ parts) :
    p.layout.Admits (inSection a.given p.key) where
  nodup := by
    have hkeys : (inSection a.given p.key).map Prod.fst =
        (a.given.map Prod.fst).filterMap fun x => if x.1 = p.key then some x.2 else none := by
      rw [inSection, List.map_filterMap, List.filterMap_map]
      congr 1
      funext e
      simp only [Function.comp]
      split <;> rfl
    rw [hkeys]
    refine a.nodup.filterMap fun x y n hx hy => ?_
    simp only [Option.mem_def, Option.ite_none_right_eq_some, Option.some.injEq] at hx hy
    exact Prod.ext (hx.1.trans hy.1.symm) (hx.2.trans hy.2.symm)
  each := by
    rintro ⟨n, g⟩ h
    obtain ⟨q, hq, hkey, hi⟩ := a.admits _ (mem_inSection.mp h)
    obtain rfl := Part.eq_of_key hq hp hkey
    exact hi

/-- A section that has to be there is what has been read. -/
theorem Reads.required {p : Part} {v : p.α} {name : String} (h : a.Reads d) (hp : p ∈ parts)
    (hstart : p.layout.finish p.layout.start = .error name) :
    p.layout.Gives (inSection a.given p.key) v ↔ p.get d = some v := by
  have L := Part.lawful p hp
  rcases h p hp with ⟨hget, hnil⟩ | ⟨w, hget, hw⟩
  · rw [hget, hnil, Section.gives_nil L, hstart]
    simp
  · rw [hget, Option.some.injEq]
    exact ⟨fun hv => hw.unique L (section_admits hp) hv, fun hv => hv ▸ hw⟩

/-- A section that may be left out is what has been read, or the standard. -/
theorem Reads.optional {p : Part} {v standard : p.α} (h : a.Reads d) (hp : p ∈ parts)
    (hstart : p.layout.finish p.layout.start = .ok standard) :
    p.layout.Gives (inSection a.given p.key) v ↔ (p.get d).getD standard = v := by
  have L := Part.lawful p hp
  rcases h p hp with ⟨hget, hnil⟩ | ⟨w, hget, hw⟩
  · rw [hget, hnil, Section.gives_nil L, hstart, Except.ok.injEq]
    rfl
  · rw [hget]
    exact ⟨fun hv => hw.unique L (section_admits hp) hv, fun hv => hv ▸ hw⟩

/-- **What has been read makes the settings that the assignment makes.** -/
theorem Reads.ofDraft_iff (h : a.Reads d) : ofDraft d = .ok s ↔ a.Gives s := by
  obtain ⟨hdatabase, hconsumer, hlogging⟩ := forall_parts.mp fun p (hp : p ∈ parts) => hp
  have hgives : a.Gives s ↔ d.database = some s.database ∧
      d.consumer.getD .standard = s.consumer ∧ d.logging.getD .standard = s.logging := by
    rw [Gives, forall_parts, h.required hdatabase rfl, h.optional hconsumer rfl,
      h.optional hlogging rfl]
    rfl
  rw [hgives, ofDraft]
  cases d.database with
  | none => simp [Json.required, Except.map]
  | some v =>
    simp only [Json.required, Except.map, Except.ok.injEq, Option.some.injEq]
    constructor
    · rintro rfl
      exact ⟨rfl, rfl, rfl⟩
    · rintro ⟨rfl, hconsumer, hlogging⟩
      rw [hconsumer, hlogging]

theorem section_fits : (∀ p ∈ parts, ∀ i ∈ p.layout.items, ∀ g,
    ((p.key, i.name), g) ∈ a.given → i.kind.Fits g) ↔
      ∀ p ∈ parts, p.layout.Fits (inSection a.given p.key) := by
  simp only [Section.Fits, mem_inSection]

/-- Only the section of the database can lack something: its address. -/
theorem url_iff {d : Database.Draft} (hd : Database.layout.Holds (inSection a.given "database") d) :
    (∃ v, Database.layout.finish d = .ok v) ↔ ∃ g, (("database", "url"), g) ∈ a.given := by
  have hurl : d.url.isSome = true ↔ ∃ g, ("url", g) ∈ inSection a.given "database" :=
    (List.forall_mem_cons.mp hd).1.isSome_iff
  simp only [mem_inSection] at hurl
  rw [← hurl]
  simp only [Database.layout, Database.ofDraft]
  cases d.url with
  | none => simp [Json.required, Except.map]
  | some u => simp [Json.required, Except.map]

/-- **An assignment makes settings if it is complete.** -/
theorem complete_iff : a.Complete ↔ ∃ s, a.Gives s := by
  rw [Complete, section_fits]
  constructor
  · rintro ⟨hurl, hfits⟩
    have hholds : ∀ p ∈ parts, ∃ d, p.layout.Holds (inSection a.given p.key) d := by
      intro p hp
      obtain ⟨d, hd, -⟩ :=
        Section.readEntries_words (Part.lawful p hp) (section_admits hp) (hfits p hp)
      exact ⟨d, hd⟩
    obtain ⟨⟨d, hd⟩, ⟨d', hd'⟩, d'', hd''⟩ := forall_parts.mp hholds
    obtain ⟨v, hv⟩ := (url_iff hd).mpr hurl
    exact ⟨⟨v, _, _⟩, forall_parts.mpr ⟨⟨d, hd, hv⟩, ⟨d', hd', rfl⟩, d'', hd'', rfl⟩⟩
  · rintro ⟨s, hs⟩
    obtain ⟨d, hd, hv⟩ := (forall_parts.mp hs).1
    exact ⟨(url_iff hd).mp ⟨_, hv⟩, fun p hp =>
      (hs p hp).fits (Part.lawful p hp) (section_admits hp)⟩

end Assignment

end OutboxProvisioning.Settings
