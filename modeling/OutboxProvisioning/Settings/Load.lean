import OutboxProvisioning.Settings
import OutboxProvisioning.Settings.Tree
import OutboxProvisioning.Text.Lowercase
import OutboxProvisioning.Variables.File

/-!
# Settings from variables

A variable whose name begins with the name of the program and two underscores holds one
setting; two underscores separate a section from an item. Numbers and truth values also have
names.

* `Settings.ofVariables`: the settings that variables hold.
* `Settings.LoadError.message`: why they hold none.
-/

namespace OutboxProvisioning.Settings

/-- What stands where something else should. -/
inductive Found
  | text (s : String)
  | number (n : Nat)
  | nothing
  | list
  | table

/-- The words for what stands there. -/
def Found.message : Found → String
  | .text s => "string " ++ Text.quoted s
  | .number n => "64-bit unsigned integer `" ++ toString n ++ "`"
  | .nothing => "unit value"
  | .list => "sequence"
  | .table => "map"

/-- What a tree is. -/
def Tree.found : Tree → Found
  | .nothing => .nothing
  | .text s => .text s
  | .list _ => .list
  | .table _ => .table

/-- Why variables hold no settings. -/
inductive LoadError
  /-- An item is something else; `key` says where. -/
  | wrongItem (found : Found) (wanted key : String)
  | wrongSection (found : Found) (title : String)
  | missing (name : String)
  | tooFew (count : Nat) (wanted : String)
  | unknownOption (title name : String)
  /-- Neither a name nor a table with one. -/
  | noOption (title : String)
  /-- An index that no list has, or a text that cannot be given to a name. -/
  | broken

namespace LoadError

/-- The reason in words. Only a text comes from the environment as it is. -/
def reason : LoadError → String
  | .wrongItem found wanted key =>
    "invalid type: " ++ found.message ++ ", expected " ++ wanted ++ " for key `" ++ key ++ "`" ++
      (match found with
        | .text _ => " in the environment"
        | _ => "")
  | .wrongSection found title => "invalid type: " ++ found.message ++ ", expected " ++ title
  | .missing name => "missing field `" ++ name ++ "`"
  | .tooFew count wanted => "invalid length " ++ toString count ++ ", expected " ++ wanted
  | .unknownOption title name => "enum " ++ title ++ " does not have variant constructor " ++ name
  | .noOption title =>
    "value of enum " ++ title ++
      " should be represented by either string or table with exactly one key"
  | .broken => "bad index"

/-- The error in words. -/
def message (e : LoadError) : String := "Configuration loading failed: " ++ e.reason

/-- A key under another one. An index follows without a point. -/
def joinKey (outer inner : String) : String :=
  outer ++ (if inner.isEmpty || inner.front = '[' then "" else ".") ++ inner

/-- An error seen from outside of the item or section `key`. -/
def within (key : String) : LoadError → LoadError
  | .wrongItem found wanted inner => .wrongItem found wanted (joinKey key inner)
  | e => e

end LoadError

/-- An option by its name in any case of letters. -/
def findOption (title : String) (options : List (String × α)) (name : String) :
    Except LoadError α :=
  match options.find? fun o => o.1 = Text.lowercase name with
  | some o => .ok o.2
  | none => .error (.unknownOption title name)

/-- A number in digits or by a name for yes or no. -/
def numberOfText (s : String) : Except LoadError Nat :=
  let word := Text.lowercase s
  if ["true", "on", "yes"].contains word then .ok 1
  else if ["false", "off", "no"].contains word then .ok 0
  else
    match Text.natural? (Nat.pow 2 64) s.toList with
    | some n => .ok n
    | none => .error (.wrongItem (.text s) "an integer" "")

/-- A truth value by a name or as zero or one. -/
def truthOfText (s : String) : Except LoadError Bool :=
  let word := Text.lowercase s
  if ["1", "true", "on", "yes"].contains word then .ok true
  else if ["0", "false", "off", "no"].contains word then .ok false
  else .error (.wrongItem (.text word) "a boolean" "")

/-- What an item may hold, in a tree. -/
def Kind.ofTree : Kind α → Tree → Except LoadError α
  | .text, .text s => .ok s
  | .text, t => .error (.wrongItem t.found "a string" "")
  | .number bits, .text s =>
    match numberOfText s with
    | .error e => .error e
    | .ok n =>
      if n < Nat.pow 2 bits then .ok n
      else .error (.wrongItem (.number n) s!"an unsigned {bits} bit integer" "")
  | .number _, t => .error (.wrongItem t.found "an integer" "")
  | .truth, .text s => truthOfText s
  | .truth, t => .error (.wrongItem t.found "a boolean" "")
  | .choice title options, .text s => findOption title options s
  | .choice title options, .table [(name, _)] => findOption title options name
  | .choice title _, _ => .error (.noOption title)

/-- Reads an item, which is called `key`, into a section. -/
def Item.ofTree (i : Item σ) (key : String) (d : σ) (t : Tree) : Except LoadError σ :=
  ((i.kind.ofTree t).map (i.put d)).mapError (.within key)

namespace Section

variable (s : Section σ α)

/-- Reads the items that have names; other names are skipped. -/
def readEntries (d : σ) : List (String × Tree) → Except LoadError σ
  | [] => .ok d
  | (name, t) :: rest =>
    match s.items.find? fun i => i.name = name with
    | none => readEntries d rest
    | some i =>
      match i.ofTree name d t with
      | .error e => .error e
      | .ok d => readEntries d rest

/-- The words for the positional form of a section. -/
def positional : String :=
  s.title ++ s!" with {s.items.length} element" ++ if s.items.length = 1 then "" else "s"

/-- Reads items in order, `index` of them having been seen. -/
def readItems (index : Nat) (d : σ) : List (Item σ) → List Tree → Except LoadError σ
  | [], _ => .ok d
  | i :: is, [] =>
    if i.optional then readItems index d is [] else .error (.tooFew index s.positional)
  | i :: is, t :: ts =>
    match i.ofTree s!"[{index}]" d t with
    | .error e => .error e
    | .ok d => readItems (index + 1) d is ts

/-- The section of what was read. -/
def close (d : σ) : Except LoadError α := (s.finish d).mapError .missing

/-- A section in a tree. -/
def ofTree : Tree → Except LoadError α
  | .table entries =>
    match s.readEntries s.start entries with
    | .error e => .error e
    | .ok d => s.close d
  | .list ts =>
    match s.readItems 0 s.start s.items ts with
    | .error e => .error e
    | .ok d => s.close d
  | t => .error (.wrongSection t.found s.title)

end Section

/-- Reads the sections that have names; other names are skipped. -/
def readSections (d : Draft) : List (String × Tree) → Except LoadError Draft
  | [] => .ok d
  | (name, t) :: rest =>
    let read : Except LoadError Draft :=
      if name = "database" then
        (Database.layout.ofTree t).map fun v => { d with database := some v }
      else if name = "consumer" then
        (Consumer.layout.ofTree t).map fun v => { d with consumer := some v }
      else if name = "logging" then
        (Logging.layout.ofTree t).map fun v => { d with logging := some v }
      else .ok d
    match read with
    | .error e => .error (e.within name)
    | .ok d => readSections d rest

/-- The settings in a tree. -/
def ofTree (t : Tree) : Except LoadError Settings :=
  match readSections ⟨none, none, none⟩ t.entries with
  | .error e => .error e
  | .ok d => (ofDraft d).mapError .missing

/-- What the names of the variables begin with, in small letters. -/
def nameStart : List Char := "billing_provisioner__".toList

/-- Points in place of two underscores. -/
def dotted : List Char → List Char
  | '_' :: '_' :: r => '.' :: dotted r
  | c :: r => c :: dotted r
  | [] => []

/-- The key that the name of a variable stands for. -/
def key? (name : String) : Option String :=
  let cs := (Text.lowercase name).toList
  if nameStart.isPrefixOf cs then some (String.ofList (dotted (cs.drop nameStart.length)))
  else none

/-- Puts the text of a variable into a tree. -/
def place (t : Tree) (v : String × String) : Except LoadError Tree :=
  match key? v.1 with
  | none => .ok t
  | some key =>
    match Tree.assign (.text v.2) (Path.ofKey key) t with
    | some t => .ok t
    | none => .error .broken

/-- The settings that variables hold. -/
def ofVariables (vs : Variables) : Except LoadError Settings :=
  match vs.foldlM place .empty with
  | .error e => .error e
  | .ok t => ofTree t

/-- The settings that variables hold with those of a file, and the variables with them. -/
def load (vs : Variables) (file : Option Bytes) : Except LoadError (Variables × Settings) :=
  match file with
  | none => (ofVariables vs).map fun s => (vs, s)
  | some b =>
    match vs.load b with
    | none => .error .broken
    | some vs => (ofVariables vs).map fun s => (vs, s)

end OutboxProvisioning.Settings
