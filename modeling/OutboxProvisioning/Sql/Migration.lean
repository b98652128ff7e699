import OutboxProvisioning.Sql.Session
import OutboxProvisioning.Uuid.Reader

/-!
# Setting up the tables

The tables are made by scripts that run once each, in order. The database keeps a table of the
scripts that have run; a lock keeps others away meanwhile. A script and its record are one
transaction.

* `migrations`: the scripts.
* `Server.migrate`: runs those that have not run.
-/

namespace OutboxProvisioning.Sql

/-- Octets in hexadecimal digits. -/
def octets (s : String) : Bytes :=
  let rec pairs : List Char → Bytes
    | a :: b :: r =>
      UInt8.ofNat ((Uuid.digit? a).getD 0 * 16 + (Uuid.digit? b).getD 0) :: pairs r
    | _ => []
  pairs s.toList

/-- The table of events. -/
def eventsMigration : Migration where
  version := 20240501000000
  description := "outbox events"
  script :=
      "-- Transactional outbox written by upstream write paths\n" ++
      "CREATE TABLE IF NOT EXISTS outbox_events (\n" ++
      "    id UUID PRIMARY KEY,\n" ++
      "    aggregate_id TEXT NOT NULL,\n" ++
      "    event_type TEXT NOT NULL,\n" ++
      "    payload JSONB NOT NULL,\n" ++
      "    published BOOLEAN NOT NULL DEFAULT FALSE,\n" ++
      "    published_at TIMESTAMPTZ,\n" ++
      "    created_at TIMESTAMPTZ NOT NULL DEFAULT NOW(),\n" ++
      "    CONSTRAINT outbox_events_published_at_check\n" ++
      "        CHECK (published = (published_at IS NOT NULL))\n" ++
      ");\n" ++
      "\n" ++
      "CREATE INDEX IF NOT EXISTS outbox_events_pending_idx\n" ++
      "    ON outbox_events (event_type, created_at, id)\n" ++
      "    WHERE published = FALSE;\n"
  checksum :=
    octets "0aa05fa866bd5bc96dac0359b0db8a2e371acd544314825d" ++
      octets "885575a469071afa3538fb56a241423468d44199338922e5"

/-- The table of workspaces. -/
def workspacesMigration : Migration where
  version := 20240501000100
  description := "billing workspaces"
  script :=
      "-- One billing workspace per organization\n" ++
      "CREATE TABLE IF NOT EXISTS billing_workspaces (\n" ++
      "    id UUID PRIMARY KEY,\n" ++
      "    organization_id UUID NOT NULL,\n" ++
      "    created_at TIMESTAMPTZ NOT NULL,\n" ++
      "    CONSTRAINT billing_workspaces_organization_id_key UNIQUE (organization_id)\n" ++
      ");\n"
  checksum :=
    octets "dc419e018e7eeb4d24793ec3838de7a5aca485323c201173" ++
      octets "5460fb1b0e9b1f5635ea95e90d88b50011c0a2b970cdc0a4"

/-- The scripts, in the order in which they run. -/
def migrations : List Migration := [eventsMigration, workspacesMigration]

/-- Why the tables cannot be set up. -/
inductive MigrationError
  /-- A migration has run in part. -/
  | broken (version : Int)
  /-- A migration has run that is not known. -/
  | unknown (version : Int)
  /-- A migration has run with another script. -/
  | modified (version : Int)
  | database (e : Error)
deriving DecidableEq, Repr

/-- The words for an error. -/
def MigrationError.message : MigrationError → String
  | .broken v =>
    s!"migration {v} is partially applied; fix and remove row from `_sqlx_migrations` table"
  | .unknown v =>
    s!"migration {v} was previously applied but is missing in the resolved migrations"
  | .modified v => s!"migration {v} was previously applied but has been modified"
  | .database e => "while executing migrations: " ++ e.message

/-- A check value of octets: the remainder of the cyclic redundancy check of 32 bits. -/
def checkValue (b : Bytes) : Nat :=
  let shift (r : Nat) (_ : Nat) : Nat := if r % 2 = 1 then (r / 2) ^^^ 0xEDB88320 else r / 2
  let step (r : Nat) (o : UInt8) : Nat := (List.range 8).foldl shift (r ^^^ o.toNat)
  b.foldl step 0xFFFFFFFF ^^^ 0xFFFFFFFF

/-- The number of the lock for a database. -/
def lockNumber (name : String) : Int := 0x3D32AD9E * checkValue (Utf8.encode name)

/-- A migration that has run, by version and check. -/
structure Applied where
  version : Int
  checksum : Bytes

/-- The migration in a row. -/
def Row.applied (row : Row) : Except Error Applied := do
  let version ← row.get 0 (.numbered 0) Cell.number?
  let checksum ← row.get 1 (.numbered 1) Cell.octets?
  return ⟨version, checksum⟩

/-- A migration that has run and is not known. -/
def unknownApplied (applied : List Applied) : Option Applied :=
  applied.find? fun a => !migrations.any fun m => a.version = m.version

namespace Server

variable {ω : Type} (srv : Server ω)

/-- Work in a session that may fail. -/
abbrev Task (ω α : Type) := ExceptT MigrationError (StateM (Session ω)) α

/-- Sends a statement and reads the reply. -/
def ask (st : Statement) (read : Reply → Except Error α) : Task ω α := fun s =>
  let (reply, s) := srv.send st s
  ((read reply).mapError .database, s)

/-- Work of which nothing is left when it fails: the transaction is dropped. -/
def orDrop (t : Task ω α) : Task ω α := fun s =>
  match t s with
  | (.error e, s) => (.error e, srv.drop s)
  | (.ok a, s) => (.ok a, s)

/-- Waits for a connection. -/
def acquireTask : Task ω Unit := fun s =>
  let (r, s) := srv.acquire s
  (r.mapError .database, s)

/-- Starts a transaction. -/
def startTask : Task ω Unit := fun s =>
  let (r, s) := srv.start s
  (r.mapError .database, s)

/-- Commits the transaction. -/
def commitTask : Task ω Unit := fun s =>
  let (r, s) := srv.finish .commit s
  (r.mapError .database, s)

/-- Takes a lock or gives it back. Its number depends on the name of the database. -/
def lockBy (statement : Int → Statement) : Task ω Unit := do
  let name ← srv.ask .databaseName fun reply =>
    reply.first? >>= fun row => Row.get row 0 (.numbered 0) Cell.text?
  let _ ← srv.ask (statement (lockNumber name)) Reply.rows?

/-- Runs a script and records it. How long it took is not measured. -/
def runMigration (m : Migration) : Task ω Unit := do
  srv.startTask
  srv.orDrop do
    let _ ← srv.ask (.script m) Reply.affected?
    let _ ← srv.ask (.record m) Reply.affected?
  srv.commitTask
  let _ ← srv.ask (.recordDuration m 0) Reply.affected?

/-- Runs a script unless it has run. -/
def applyMigration (applied : List Applied) (m : Migration) : Task ω Unit :=
  match applied.reverse.find? fun a : Applied => a.version = m.version with
  | none => srv.runMigration m
  | some a => if a.checksum = m.checksum then pure () else throw (.modified m.version)

/-- Fails when a migration has run in part. -/
def checkBroken : Task ω Unit := do
  let rows ← srv.ask .brokenMigration Reply.rows?
  match rows with
  | [] => pure ()
  | row :: _ =>
    match row.get 0 (.numbered 0) Cell.number? with
    | .ok v => throw (.broken v)
    | .error e => throw (.database e)

/-- Sets up the tables. The lock is not given back after a failure. -/
def migrateTask : Task ω Unit := do
  srv.lockBy .lock
  let _ ← srv.ask .createHistory Reply.affected?
  srv.checkBroken
  let applied ← srv.ask .history fun reply => reply.rows? >>= fun rows => rows.mapM Row.applied
  match unknownApplied applied with
  | some a => throw (.unknown a.version)
  | none => pure ()
  migrations.forM (srv.applyMigration applied)
  srv.lockBy .unlock

/-- Sets up the tables, if there is a connection for it. -/
def migrate (s : Session ω) : Except DomainError Unit × Session ω :=
  let (r, s) := (do srv.acquireTask; srv.migrateTask : Task ω Unit) s
  (r.mapError fun e => .database ("Failed to run migrations: " ++ e.message), s)

end Server

end OutboxProvisioning.Sql
