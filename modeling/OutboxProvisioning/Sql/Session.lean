import OutboxProvisioning.Batch
import OutboxProvisioning.Sql.Reply
import OutboxProvisioning.Sql.Statement

/-!
# Sessions with a database

One statement is sent after another, and the database replies to each. At most one transaction
is open at a time. A transaction that cannot be started or ended is rolled back. When the
database refuses that too, the connection is given up; the next one who needs a connection hears
of it and has a new one made, which may be refused.

* `Server`: a database that replies to statements and takes connections.
* `Server.acquire`: a connection for whoever needs one.
* `Server.fetch`, `Server.answer`: what a poll needs, by statements.
* `Server.backend`: a database as a store that polls can use.
-/

namespace OutboxProvisioning

namespace Log

/-- A connection was given up. -/
def connectionLost (e : Sql.Error) : Entry :=
  ⟨.connection, .warn, "error occurred while testing the connection on-release",
    [("error", .text e.message)]⟩

end Log

namespace Sql

/-- A database with states `ω` that replies to statements and takes connections. -/
structure Server (ω : Type) where
  respond : Statement → ω → Reply × ω
  connect : ω → Except Error Unit × ω

/-- A database with the one connection to it. -/
structure Session (ω : Type) where
  server : ω
  /-- Whether a transaction is open. It has the connection for itself. -/
  isOpen : Bool
  isConnected : Bool
  /-- Why the last connection was given up, until somebody hears of it. -/
  lost : Option Error
  /-- What has been reported, until it is taken. -/
  reports : List Log.Entry
  /-- Whether a row held a time that cannot be represented, which ends the program. -/
  isBroken : Bool

namespace Session

/-- A database without a connection to it. -/
def start (server : ω) : Session ω := ⟨server, false, false, none, [], false⟩

/-- Reports a connection that was given up. -/
def hear (s : Session ω) : Session ω :=
  match s.lost with
  | some e => { s with lost := none, reports := s.reports ++ [Log.connectionLost e] }
  | none => s

/-- What has been reported. -/
def takeReports (s : Session ω) : List Log.Entry × Session ω := (s.reports, { s with reports := [] })

/-- Takes note of an error that ends the program. -/
def noteBreak (e : Error) (s : Session ω) : Session ω :=
  if e = .unrepresentable then { s with isBroken := true } else s

end Session

/-- An error of the database, with what was being done. -/
def failed (task : String) (e : Error) : DomainError := .database (task ++ ": " ++ e.message)

/-- The constraint by which an organization has one workspace. -/
def organizationKey : String := "billing_workspaces_organization_id_key"

/-- Why a workspace was not inserted. -/
def insertFailed (o : OrganizationId) (e : Error) : DomainError :=
  let plain := failed "Failed to insert workspace" e
  let err := match e with
    | .refused r =>
      if r.constraint = some organizationKey then
        DomainError.plain .workspaceExists "Organization already has a billing workspace"
      else plain
    | _ => plain
  err.withDetail "organization_id" (toString o)

/-- Whether an event was published, by the number of rows that were changed. -/
def published (id : EventId) (changed : Except Error Nat) : Except DomainError Unit :=
  match changed with
  | .error e =>
    .error ((failed "Failed to mark event published" e).withDetail "event_id" (toString id))
  | .ok 0 =>
    .error ((DomainError.plain .eventAlreadyPublished
      "Event not found or already published").withDetail "event_id" (toString id))
  | .ok _ => .ok ()

namespace Server

variable {ω : Type} (srv : Server ω)

/-- Sends a statement. -/
def send (st : Statement) (s : Session ω) : Reply × Session ω :=
  ((srv.respond st s.server).1, { s with server := (srv.respond st s.server).2 })

/-- Makes a new connection. -/
def dial (s : Session ω) : Except Error Unit × Session ω :=
  let (r, server) := srv.connect s.server
  (r, { s with server, isConnected := r.isOk })

/-- A connection for somebody who needs one. There is one at most, and nobody else may have it. -/
def acquire (s : Session ω) : Except Error Unit × Session ω :=
  if s.isOpen then (.error .noConnection, s)
  else
    let s := s.hear
    if s.isConnected then (.ok (), s) else srv.dial s

/-- What happens while nobody needs a connection: one that was given up is replaced, if there are
to be some at all times. Nobody hears when that fails. -/
def idle (atAllTimes : Bool) (s : Session ω) : Session ω :=
  if s.lost.isSome && atAllTimes then (srv.dial s.hear).2 else s.hear

/-- Rolls back what is open. The connection is given up when that is refused. -/
def abandon (s : Session ω) : Session ω :=
  match srv.send .rollback s with
  | (.refused r, s) => { s with isOpen := false, isConnected := false, lost := some (.refused r) }
  | (_, s) => { s with isOpen := false }

/-- Starts a transaction. -/
def start (s : Session ω) : Except Error Unit × Session ω :=
  match srv.acquire s with
  | (.error e, s) => (.error e, s)
  | (.ok (), s) =>
    match srv.send .beginTransaction s with
    | (.refused r, s) => (.error (.refused r), srv.abandon s)
    | (_, s) => (.ok (), { s with isOpen := true })

/-- Ends a transaction by a statement. -/
def finish (st : Statement) (s : Session ω) : Except Error Unit × Session ω :=
  match srv.send st s with
  | (.refused r, s) => (.error (.refused r), srv.abandon s)
  | (_, s) => (.ok (), { s with isOpen := false })

/-- Drops a transaction, if one is open. -/
def drop (s : Session ω) : Session ω := if s.isOpen then srv.abandon s else s

/-- The pending events of a type, oldest first, at most so many. -/
def pending (eventType : String) (limit : Nat) (s : Session ω) :
    Except Error (List Event) × Session ω :=
  match srv.acquire s with
  | (.error e, s) => (.error e, s)
  | (.ok (), s) =>
    let (reply, s) := srv.send (.pending eventType limit) s
    match reply.rows? >>= fun rows => rows.mapM Row.event with
    | .error e => (.error e, s.noteBreak e)
    | .ok events => (.ok events, s)

/-- The pending events of a type for a poll. -/
def fetch (eventType : String) (limit : Nat) (s : Session ω) :
    Except DomainError (List Event) × Session ω :=
  let (events, s) := srv.pending eventType limit s
  (events.mapError fun e =>
    (failed "Failed to fetch pending events" e).withDetail "event_type" eventType, s)

/-- Whether an organization has a workspace. -/
def exists? (o : OrganizationId) (s : Session ω) : Except Error Bool × Session ω :=
  let (reply, s) := srv.send (.workspaceExists o) s
  match reply.first? with
  | .error e => (.error e, s)
  | .ok row => (row.get 0 (.numbered 0) Cell.truth?, s)

/-- The answer to a call. -/
def answer : (c : Call) → Session ω → c.Answer × Session ω
  | .beginTransaction, s =>
    let (r, s) := srv.start s
    (r.mapError (failed "Failed to begin transaction"), s)
  | .workspaceExists o, s =>
    let (r, s) := srv.exists? o s
    (r.mapError fun e =>
      (failed "Failed to check workspace" e).withDetail "organization_id" (toString o), s)
  | .createWorkspace w, s =>
    let (reply, s) := srv.send (.insertWorkspace w) s
    ((reply.affected?.mapError (insertFailed w.organizationId)).map fun _ => (), s)
  | .markPublished id t, s =>
    let (reply, s) := srv.send (.publishEvent id t) s
    (published id reply.affected?, s)
  | .commit, s =>
    let (r, s) := srv.finish .commit s
    (r.mapError (failed "Failed to commit transaction"), s)
  | .rollback, s =>
    let (r, s) := srv.finish .rollback s
    (r.mapError (failed "Failed to roll back transaction"), s)

/-- A database as a store that polls can use. -/
def backend : Backend (Session ω) := ⟨srv.fetch, srv.answer, Session.takeReports⟩

end Server

end Sql

end OutboxProvisioning
