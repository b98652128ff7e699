import OutboxProvisioning.Settings.Consumer
import OutboxProvisioning.Settings.Database
import OutboxProvisioning.Settings.Logging

/-!
# Settings

All that can be set, in three sections. Only the database has to be there.

* `Settings.validate`: why the program cannot run with some settings.
* `Settings.reader`: settings in JSON.
-/

namespace OutboxProvisioning

/-- All settings. -/
structure Settings where
  database : Settings.Database
  consumer : Settings.Consumer
  logging : Settings.Logging
deriving DecidableEq, Repr

namespace Settings

/-- Whether the program runs in production. -/
def isProduction (s : Settings) : Bool := s.logging.isProduction

/-- Why the program cannot run with these settings: the first flaw of the three sections. -/
def validate (s : Settings) : Except Flaw Unit := do
  s.database.validate
  s.consumer.validate
  s.logging.validate

/-- The settings while they are read. -/
structure Draft where
  database : Option Database
  consumer : Option Consumer
  logging : Option Logging

/-- The settings of a draft. Only the database has to be there. -/
def ofDraft (d : Draft) : Except String Settings :=
  (Json.required "database" d.database).map fun database =>
    ⟨database, d.consumer.getD .standard, d.logging.getD .standard⟩

/-- What the settings are called in messages. -/
def title : String := "struct AppConfig"

/-- The settings as an object with a member for each section. -/
def schema : Json.Schema Draft Settings where
  title := title
  members :=
    [⟨"database", fun d => d.database.isSome,
        fun d => Database.reader.map fun v => { d with database := some v }, false⟩,
      ⟨"consumer", fun d => d.consumer.isSome,
        fun d => Consumer.reader.map fun v => { d with consumer := some v }, true⟩,
      ⟨"logging", fun d => d.logging.isSome,
        fun d => Logging.reader.map fun v => { d with logging := some v }, true⟩]
  start := ⟨none, none, none⟩
  finish := ofDraft

/-- Settings in JSON. -/
def reader : Json.Reader Settings := schema.reader

end Settings

end OutboxProvisioning
