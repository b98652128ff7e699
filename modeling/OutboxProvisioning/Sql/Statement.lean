import OutboxProvisioning.Event
import OutboxProvisioning.Workspace

/-!
# Statements

All that is ever sent to a database: the statements of polls and transactions, and those that
set up the tables. A statement is a text with places for values.

* `Statement.text`: the text of a statement.
* `Statement.values`: the values for its places.
-/

namespace OutboxProvisioning.Sql

/-- A script that changes the tables of a database, once. -/
structure Migration where
  /-- The order in which migrations run. -/
  version : Nat
  description : String
  script : String
  /-- Tells whether the script is the one that ran before. -/
  checksum : Bytes

/-- A value for a place in a statement. -/
inductive Value
  | uuid (u : Uuid)
  | text (s : String)
  | number (i : Int)
  | time (t : Instant)
  | octets (b : Bytes)

/-- What can be sent to a database. -/
inductive Statement
  /-- The pending events of a type, at most so many. -/
  | pending (eventType : String) (limit : Nat)
  | beginTransaction
  | commit
  | rollback
  | workspaceExists (o : OrganizationId)
  | insertWorkspace (w : Workspace)
  | publishEvent (id : EventId) (t : Instant)
  | databaseName
  /-- Keeps others from setting up the tables. -/
  | lock (number : Int)
  | unlock (number : Int)
  /-- Makes the table of the migrations that have run. -/
  | createHistory
  /-- The first migration that has run in part. -/
  | brokenMigration
  /-- The migrations that have run. -/
  | history
  | script (m : Migration)
  | record (m : Migration)
  | recordDuration (m : Migration) (nanoseconds : Int)

namespace Statement

/-- The text of a statement. -/
def text : Statement → String
  | .pending _ _ =>
    "SELECT id, aggregate_id, event_type, payload::text AS payload, published, published_at, " ++
      "created_at FROM outbox_events WHERE event_type = $1 AND published = FALSE " ++
      "ORDER BY created_at ASC, id ASC LIMIT $2"
  | .beginTransaction => "BEGIN"
  | .commit => "COMMIT"
  | .rollback => "ROLLBACK"
  | .workspaceExists _ =>
    "SELECT EXISTS(SELECT 1 FROM billing_workspaces WHERE organization_id = $1)"
  | .insertWorkspace _ =>
    "INSERT INTO billing_workspaces (id, organization_id, created_at) VALUES ($1, $2, $3)"
  | .publishEvent _ _ =>
    "UPDATE outbox_events SET published = TRUE, published_at = $2 " ++
      "WHERE id = $1 AND published = FALSE"
  | .databaseName => "SELECT current_database()"
  | .lock _ => "SELECT pg_advisory_lock($1)"
  | .unlock _ => "SELECT pg_advisory_unlock($1)"
  | .createHistory =>
    "CREATE TABLE IF NOT EXISTS _sqlx_migrations ( version BIGINT PRIMARY KEY, " ++
      "description TEXT NOT NULL, installed_on TIMESTAMPTZ NOT NULL DEFAULT now(), " ++
      "success BOOLEAN NOT NULL, checksum BYTEA NOT NULL, execution_time BIGINT NOT NULL );"
  | .brokenMigration =>
    "SELECT version FROM _sqlx_migrations WHERE success = false ORDER BY version LIMIT 1"
  | .history => "SELECT version, checksum FROM _sqlx_migrations ORDER BY version"
  | .script m => m.script
  | .record _ =>
    "INSERT INTO _sqlx_migrations ( version, description, success, checksum, execution_time ) " ++
      "VALUES ( $1, $2, TRUE, $3, -1 )"
  | .recordDuration _ _ => "UPDATE _sqlx_migrations SET execution_time = $1 WHERE version = $2"

/-- The values for the places of a statement. -/
def values : Statement → List Value
  | .pending eventType limit => [.text eventType, .number limit]
  | .workspaceExists o => [.uuid o.uuid]
  | .insertWorkspace w => [.uuid w.id.uuid, .uuid w.organizationId.uuid, .time w.createdAt]
  | .publishEvent id t => [.uuid id.uuid, .time t]
  | .lock n | .unlock n => [.number n]
  | .record m => [.number m.version, .text m.description, .octets m.checksum]
  | .recordDuration m n => [.number n, .number m.version]
  | .beginTransaction | .commit | .rollback | .databaseName | .createHistory | .brokenMigration
  | .history | .script _ => []

/-- Whether a statement only serves the bookkeeping of migrations. -/
def isBookkeeping : Statement → Bool
  | .databaseName | .lock _ | .unlock _ | .createHistory | .brokenMigration | .history
  | .record _ | .recordDuration _ _ => true
  | .pending _ _ | .beginTransaction | .commit | .rollback | .workspaceExists _
  | .insertWorkspace _ | .publishEvent _ _ | .script _ => false

end Statement

end OutboxProvisioning.Sql
