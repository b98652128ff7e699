import OutboxProvisioning.Settings.Flaw
import OutboxProvisioning.Settings.Section
import OutboxProvisioning.Text.Split

/-!
# Settings of the database

* `redact`: an address with its password replaced.
* `Database.validate`: why a database cannot be used with these settings.
-/

namespace OutboxProvisioning.Settings

/-- Where the database is, and how many connections to it there may be. -/
structure Database where
  url : String
  minConnections : Nat
  maxConnections : Nat
  /-- Seconds to wait for a connection. -/
  acquireTimeout : Nat
  /-- Seconds until an idle connection is closed. -/
  idleTimeout : Nat
  /-- Seconds until any connection is closed. -/
  maxLifetime : Nat
  /-- Whether the tables are set up at the start. -/
  runMigrations : Bool
deriving DecidableEq, Repr

/-- An address in which what stands between the first colon and the last at sign after the
scheme is replaced by three asterisks. An address that lacks one of them is kept. -/
def redact (url : List Char) : List Char :=
  match Text.splitFirst [':', '/', '/'] url with
  | none => url
  | some (scheme, rest) =>
    match Text.splitLast '@' rest with
    | none => url
    | some (credentials, host) =>
      match Text.splitFirst [':'] credentials with
      | none => url
      | some (user, _) => scheme ++ "://".toList ++ user ++ ":***@".toList ++ host

namespace Database

/-- What holds where nothing is set; the address has no default, and is empty here. -/
def standard : Database := ⟨"", 1, 5, 10, 600, 1800, false⟩

instance : Inhabited Database := ⟨standard⟩

/-- The address as it may be shown. -/
def redactedUrl (d : Database) : String := String.ofList (redact d.url.toList)

/-- The schemes that an address may have. -/
def schemes : List String := ["postgres://", "postgresql://"]

/-- Why the database cannot be used with these settings. -/
def validate (d : Database) : Except Flaw Unit :=
  if d.url.isEmpty then .error (.missing "DATABASE_URL")
  else if !schemes.any fun s => s.toList.isPrefixOf d.url.toList then .error .databaseUrl
  else if d.maxConnections < d.minConnections then .error .poolSize
  else if 100 < d.maxConnections then .error .poolTooLarge
  else .ok ()

/-- The section while it is read. -/
structure Draft where
  url : Option String
  minConnections : Option Nat
  maxConnections : Option Nat
  acquireTimeout : Option Nat
  idleTimeout : Option Nat
  maxLifetime : Option Nat
  runMigrations : Option Bool

/-- The section of a draft. Every item but the address has a default. -/
def ofDraft (d : Draft) : Except String Database :=
  (Json.required "url" d.url).map fun url => {
    url
    minConnections := d.minConnections.getD standard.minConnections
    maxConnections := d.maxConnections.getD standard.maxConnections
    acquireTimeout := d.acquireTimeout.getD standard.acquireTimeout
    idleTimeout := d.idleTimeout.getD standard.idleTimeout
    maxLifetime := d.maxLifetime.getD standard.maxLifetime
    runMigrations := d.runMigrations.getD standard.runMigrations }

/-- The section of the database. -/
def layout : Section Draft Database where
  title := "struct DatabaseConfig"
  items :=
    [⟨.text, "url", Draft.url, fun d v => { d with url := some v }, false⟩,
      ⟨.number 32, "min_connections", Draft.minConnections,
        fun d v => { d with minConnections := some v }, true⟩,
      ⟨.number 32, "max_connections", Draft.maxConnections,
        fun d v => { d with maxConnections := some v }, true⟩,
      ⟨.number 64, "acquire_timeout_secs", Draft.acquireTimeout,
        fun d v => { d with acquireTimeout := some v }, true⟩,
      ⟨.number 64, "idle_timeout_secs", Draft.idleTimeout,
        fun d v => { d with idleTimeout := some v }, true⟩,
      ⟨.number 64, "max_lifetime_secs", Draft.maxLifetime,
        fun d v => { d with maxLifetime := some v }, true⟩,
      ⟨.truth, "run_migrations", Draft.runMigrations,
        fun d v => { d with runMigrations := some v }, true⟩]
  start := ⟨none, none, none, none, none, none, none⟩
  finish := ofDraft

/-- The settings of the database in JSON. -/
def reader : Json.Reader Database := layout.schema.reader

end Database

end OutboxProvisioning.Settings
