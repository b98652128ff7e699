import OutboxProvisioning.Consumer.Loop
import OutboxProvisioning.Settings.Load
import OutboxProvisioning.Sql.Address
import OutboxProvisioning.Sql.Migration

/-!
# The program

The program loads its settings and checks them, connects to the database, sets up the tables if
it has to, and consumes the outbox until it is told to shut down. Whatever goes wrong before the
consumer starts ends the program with a line about it.

* `Service.run`: a run of the program that is told to shut down after its first poll.
-/

namespace OutboxProvisioning

namespace Log

/-- The settings were accepted. -/
def configured (stage : Settings.Stage) : Entry :=
  ⟨.program, .info, "Configuration loaded", [("environment", .text stage.name)]⟩

/-- A connection is about to be made. -/
def connecting (d : Settings.Database) : Entry :=
  ⟨.program, .info, "Connecting to database", [("url", .text d.redactedUrl)]⟩

/-- A parameter of an address is not known. -/
def unknownParameter (p : String × String) : Entry :=
  ⟨.address, .warn, "ignoring unrecognized connect parameter",
    [("key", .text p.1), ("value", .text p.2)]⟩

/-- The tables are about to be set up. -/
def migrating : Entry := ⟨.program, .info, "Running database migrations", []⟩

/-- The program was told to shut down. -/
def shuttingDown : Entry :=
  ⟨.program, .info, "Shutdown signal received, draining final batch", []⟩

/-- The program has come to its end. -/
def ended : Entry := ⟨.program, .info, "Billing provisioner stopped", []⟩

end Log

namespace Service

/-- Why the program ends before it consumes anything. -/
inductive Failure
  | load (e : Settings.LoadError)
  | settings (f : Settings.Flaw)
  | database (e : DomainError)

/-- The words for a failure. Errors of the database have no details here. -/
def Failure.text : Failure → String
  | .load e => "LoadError(" ++ e.reason ++ ")"
  | .settings (.missing name) => "MissingRequired(" ++ Text.quoted name ++ ")"
  | .settings (.logFilter f) => "InvalidLogFilter(" ++ Text.quoted f.message ++ ")"
  | .settings f => f.name
  | .database e =>
    "DomainError \x7b code: DatabaseError, message: " ++ Text.quoted e.message ++
      ", details: \x7b\x7d \x7d"

/-- What is seen of a run. -/
structure Run where
  failure : Option Failure
  /-- What was reported, of all that could have been. -/
  log : List Log.Entry
  /-- Whether the log is written as JSON. -/
  json : Bool
  /-- What was sent to the database, or nothing without a connection. -/
  sent : List Sql.Statement

/-- The number by which the program tells how it ended. -/
def Run.exitCode (r : Run) : Nat := if r.failure.isSome then 1 else 0

/-- What the program says about its failure. -/
def Run.errorText (r : Run) : String :=
  match r.failure with
  | some f => "Error: " ++ f.text ++ "\n"
  | none => ""

/-- What has been reported so far, and how the work that reported it went on. -/
structure Progress (α : Type) where
  log : List Log.Entry
  result : Except Failure α

/-- A database that connections can be made to, as long as there may be one. -/
structure Host (ω : Type) where
  server : Sql.Server ω
  /-- Before the first connection. -/
  initial : ω
  /-- What was sent to it. -/
  sent : ω → List Sql.Statement

variable {ω : Type} (host : Host ω)

/-- A failure to connect. -/
def connectFailed (e : Sql.Error) : Failure :=
  .database (Sql.failed "Failed to connect to database" e)

/-- Connects to the database of an address. -/
def connect (d : Settings.Database) : Progress (Sql.Session ω) :=
  let (unknown, flaw) := Sql.Address.check d.url
  let log := Log.connecting d :: unknown.map Log.unknownParameter
  match flaw with
  | some f => ⟨log, .error (connectFailed (.address f.message))⟩
  | none =>
    if d.maxConnections = 0 then ⟨log, .error (connectFailed .noConnection)⟩
    else
      match host.server.dial (.start host.initial) with
      | (.error e, _) => ⟨log, .error (connectFailed e)⟩
      | (.ok (), s) => ⟨log, .ok s⟩

/-- Polls twice, once at the start and once after the signal to shut down. In between nobody needs
the connection, of which there may have to be one `atAllTimes`, and at the end it is closed. -/
def consume (config : ConsumerConfig) (atAllTimes : Bool) (draws : Nat → Draw)
    (s : Sql.Session ω) : List Log.Entry × Sql.Session ω :=
  let first := host.server.backend.poll config draws s
  let used := match first.result with
    | .ok r => r.fetched
    | .error _ => 0
  let (between, s) := (host.server.idle atAllTimes first.state).takeReports
  let final := host.server.backend.poll config (fun i => draws (used + i)) s
  let (atEnd, s) := (host.server.idle false final.state).takeReports
  ([Log.started config] ++ first.log ++ [Log.batch first.result] ++ between ++
    [Log.shuttingDown] ++ final.log ++ [Log.batch final.result, Log.stopped config] ++ atEnd ++
    [Log.ended], s)

/-- Sets up the tables if the settings say so. -/
def setUp (d : Settings.Database) (s : Sql.Session ω) :
    List Log.Entry × Except Failure Unit × Sql.Session ω :=
  if d.runMigrations then
    let (r, s) := host.server.migrate s
    ([Log.migrating], r.mapError Failure.database, s)
  else ([], .ok (), s)

/-- A run with settings that have been accepted. There is none when a time that was fetched cannot
be represented. -/
def work (settings : Settings) (draws : Nat → Draw) :
    Option (List Log.Entry × Option Failure × List Sql.Statement) :=
  let connected := connect host settings.database
  let log := Log.configured settings.logging.stage :: connected.log
  match connected.result with
  | .error f => some (log, some f, [])
  | .ok s =>
    let (more, r, s) := setUp host settings.database s
    match r with
    | .error f => some (log ++ more, some f, host.sent s.server)
    | .ok () =>
      let atAllTimes := 0 < settings.database.minConnections
      let (rest, s) := consume host settings.consumer.toConfig atAllTimes draws s
      if s.isBroken then none else some (log ++ more ++ rest, none, host.sent s.server)

/-- A run with settings that have been loaded. The log is there before the settings are checked.
There is no run when reading the filter breaks off. -/
def runWith (override : Option String) (settings : Settings) (draws : Nat → Draw) : Option Run :=
  match settings.logging.filter override with
  | none => none
  | some filter =>
    let json := settings.logging.format = .json
    match settings.validate with
    | .error f => some ⟨some (.settings f), [], json, []⟩
    | .ok () =>
      (work host settings draws).map fun (log, failure, sent) =>
        ⟨failure, log.filter filter.admits, json, sent⟩

/-- A run of the program with variables and perhaps a file of more, told to shut down after its
first poll. There is none when loading breaks off. -/
def run (vs : Variables) (file : Option Bytes) (draws : Nat → Draw) : Option Run :=
  match Settings.load vs file with
  | .error .broken => none
  | .error e => some ⟨some (.load e), [], false, []⟩
  | .ok (vs, settings) => runWith host (vs.find? "RUST_LOG") settings draws

end Service

end OutboxProvisioning
