import OutboxProvisioning.Wire

/-!
# Sections of settings

A section is described once: which items it has, what each may hold and where it goes. The
description is all that a source of settings needs to read it.

* `Kind`: what an item may hold.
* `Item`: one setting, and its place in the section under construction.
* `Section`: the items of a section, and what it comes to when all are read.
* `Section.schema`: how a section is read from JSON.
-/

namespace OutboxProvisioning.Settings

open Json (Member Reader Schema)

/-- What an item may hold. -/
inductive Kind : Type → Type 1
  | text : Kind String
  /-- A number of so many bits. -/
  | number (bits : Nat) : Kind Nat
  | truth : Kind Bool
  /-- One of some named things. -/
  | choice {α : Type} (title : String) (options : List (String × α)) : Kind α

/-- One setting of a section of which `σ` holds the part read so far. -/
structure Item (σ : Type) where
  {value : Type}
  kind : Kind value
  name : String
  /-- Its value in what was read so far. -/
  get : σ → Option value
  put : σ → value → σ
  /-- Whether it may be left out. -/
  optional : Bool

/-- How a section is read. -/
structure Section (σ α : Type) where
  /-- What the section is called in messages. -/
  title : String
  items : List (Item σ)
  /-- Nothing read yet. -/
  start : σ
  /-- The section, or the name of an item that is missing. -/
  finish : σ → Except String α

/-- What an item may hold, in JSON. -/
def Kind.reader : Kind α → Reader α
  | .text => .text
  | .number bits => .unsigned bits
  | .truth => .boolean
  | .choice _ options => .variant options

/-- An item as a member of an object. -/
def Item.member (i : Item σ) : Member σ :=
  ⟨i.name, fun d => (i.get d).isSome, fun d => i.kind.reader.map (i.put d), i.optional⟩

/-- A section as an object. -/
def Section.schema (s : Section σ α) : Schema σ α :=
  ⟨s.title, s.items.map Item.member, s.start, s.finish⟩

end OutboxProvisioning.Settings
