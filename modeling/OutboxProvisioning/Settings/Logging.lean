import OutboxProvisioning.Log.Filter
import OutboxProvisioning.Settings.Flaw
import OutboxProvisioning.Settings.Section

/-!
# Settings of the log

* `Logging.filter`: what is reported.
* `Logging.validate`: why nothing can be.
-/

namespace OutboxProvisioning.Settings

/-- What the program runs for. -/
inductive Stage
  | development
  | staging
  | production
deriving DecidableEq, Repr

/-- The name of a stage. -/
def Stage.name : Stage → String
  | .development => "Development"
  | .staging => "Staging"
  | .production => "Production"

/-- How the log is written. -/
inductive Format
  | pretty
  | json
deriving DecidableEq, Repr

/-- What is reported, and how. -/
structure Logging where
  stage : Stage
  /-- The text of a filter. -/
  level : String
  format : Format
deriving DecidableEq, Repr

namespace Logging

/-- The filter that holds where nothing is set. -/
def standardLevel : String := "info,billing_provisioner=debug,sqlx=warn"

/-- What holds where nothing is set. -/
def standard : Logging := ⟨.development, standardLevel, .pretty⟩

instance : Inhabited Logging := ⟨standard⟩

/-- Whether the program runs in production. -/
def isProduction (l : Logging) : Bool := l.stage = .production

/-- The first of some texts that is a filter. There is none when a text before it cuts through a
character, since reading goes no further then. -/
def firstFilter : List String → Option Log.Filter
  | [] => none
  | s :: rest =>
    match Log.Filter.ofString s with
    | .ok f => some f
    | .error .splitCharacter => none
    | .error _ => firstFilter rest

/-- What is reported: as `override` says if it is a filter, else as the level says, else the
standard. -/
def filter (override : Option String) (l : Logging) : Option Log.Filter :=
  firstFilter (override.toList ++ [l.level, standardLevel])

/-- Why the log cannot be written with these settings. -/
def validate (l : Logging) : Except Flaw Unit :=
  match Log.Filter.ofString l.level with
  | .error f => .error (.logFilter f)
  | .ok _ => if l.isProduction && l.format ≠ .json then .error .prettyProduction else .ok ()

/-- The section while it is read. -/
structure Draft where
  stage : Option Stage
  level : Option String
  format : Option Format

/-- The section of a draft. Every item has a default. -/
def ofDraft (d : Draft) : Except String Logging :=
  .ok {
    stage := d.stage.getD standard.stage
    level := d.level.getD standard.level
    format := d.format.getD standard.format }

/-- The section of the log. -/
def layout : Section Draft Logging where
  title := "struct LoggingConfig"
  items :=
    [⟨.choice "Environment" [("development", .development), ("staging", .staging),
        ("production", .production)], "environment", Draft.stage,
        fun d v => { d with stage := some v }, true⟩,
      ⟨.text, "level", Draft.level, fun d v => { d with level := some v }, true⟩,
      ⟨.choice "LogFormat" [("pretty", .pretty), ("json", .json)], "format", Draft.format,
        fun d v => { d with format := some v }, true⟩]
  start := ⟨none, none, none⟩
  finish := ofDraft

/-- The settings of the log in JSON. -/
def reader : Json.Reader Logging := layout.schema.reader

end Logging

end OutboxProvisioning.Settings
