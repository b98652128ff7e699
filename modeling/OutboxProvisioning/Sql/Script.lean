import OutboxProvisioning.Sql.Migration
import OutboxProvisioning.Sql.Scripted
import OutboxProvisioning.Store.Script

/-!
# Scripts on a database

A script is a list of steps taken one after another on a database that replies as planned: calls,
a transaction under a name, events handled, polls, and the tables being set up. Each step has its
own planned replies; what is left of them is dropped.

* `Script.step`: one step.
* `Script.leave`: the end of a script, which drops a transaction that is still open.
-/

namespace OutboxProvisioning.Sql

/-- One step of a script. -/
inductive Step
  | describe
  | migrate
  | fetch (eventType : String) (limit : Nat)
  | openTransaction (name : String)
  | inside (name : String) (step : TransactionStep)
  | handle (cmd : Command)
  | poll (config : ConsumerConfig)

/-- What a step answers. -/
inductive Answer
  | text (s : String)
  | done
  | noTransaction
  | refused (e : DomainError)
  | truth (b : Bool)
  | events (es : List Event)
  | handled (r : Except ProvisioningError Provisioned)
  | polled (r : Except ProvisioningError Report)

/-- The answer to a call that gives nothing. -/
def Answer.ofResult : Except DomainError Unit → Answer
  | .ok () => .done
  | .error e => .refused e

/-- A session with the name of its open transaction and the draws not yet made. -/
structure Script where
  session : Session Scripted
  name : Option String
  draws : Nat → Draw
  /-- How many draws have been made. -/
  drawn : Nat

/-- An answer, what was logged (but for reports of the connection), the statements that were sent,
and the script after it. -/
structure Stepped where
  answer : Answer
  log : List Log.Entry
  sent : List Statement
  script : Script

namespace Script

/-- A session in which nothing has been sent. -/
def start (s : Session Scripted) (draws : Nat → Draw) : Script := ⟨s, none, draws, 0⟩

/-- How a store that keeps its events in a database is described. -/
def description : String := "PostgresEventStore \x7b pool: \"PgPool\" \x7d"

/-- The draws that are still to be made. -/
def nextDraws (s : Script) : Nat → Draw := fun i => s.draws (s.drawn + i)

/-- An answer to a call, without its name if the transaction has ended. -/
def ended (s : Script) (r : Except DomainError Unit × Session Scripted) :
    Answer × List Log.Entry × Script :=
  (.ofResult r.1, [], { s with session := r.2, name := none })

/-- A step inside the open transaction. -/
def inside (s : Script) : TransactionStep → Answer × List Log.Entry × Script
  | .workspaceExists o =>
    let (r, session) := Scripted.server.answer (.workspaceExists o) s.session
    let answer := match r with
      | .ok b => .truth b
      | .error e => .refused e
    (answer, [], { s with session })
  | .create id o time =>
    let w : Workspace := ⟨id.getD (s.draws s.drawn).workspaceId, o, time⟩
    let (r, session) := Scripted.server.answer (.createWorkspace w) s.session
    (.ofResult r, [], { s with session, drawn := s.drawn + 1 })
  | .mark id time =>
    let (r, session) := Scripted.server.answer (.markPublished id time) s.session
    (.ofResult r, [], { s with session })
  | .commit => s.ended (Scripted.server.answer .commit s.session)
  | .rollback => s.ended (Scripted.server.answer .rollback s.session)
  | .drop => s.ended (.ok (), Scripted.server.drop s.session)

/-- One step, with the replies that are planned already. -/
def perform (s : Script) : Step → Answer × List Log.Entry × Script
  | .describe => (.text description, [], s)
  | .migrate =>
    let (r, session) := Scripted.server.migrate s.session
    (.ofResult r, [], { s with session })
  | .fetch eventType limit =>
    let (r, session) := Scripted.server.fetch eventType limit s.session
    let answer := match r with
      | .ok es => .events es
      | .error e => .refused e
    (answer, [], { s with session })
  | .openTransaction name =>
    let (r, session) := Scripted.server.answer .beginTransaction s.session
    let name := match r with
      | .ok () => some name
      | .error _ => s.name
    (.ofResult r, [], { s with session, name })
  | .inside name step => if s.name = some name then s.inside step else (.noTransaction, [], s)
  | .handle cmd =>
    let (handled, session) :=
      (handle cmd (s.draws s.drawn)).run Scripted.server.answer s.session
    (.handled handled.result, handled.log, { s with session, drawn := s.drawn + 1 })
  | .poll config =>
    let p := Scripted.server.backend.poll config s.nextDraws s.session
    let used := match p.result with
      | .ok r => r.fetched
      | .error _ => 0
    let log := p.log.filter fun e => e.origin ≠ .connection
    (.polled p.result, log, { s with session := p.state, drawn := s.drawn + used })

/-- Plans replies, in place of those that were left, and forgets what was sent. -/
def plan (s : Script) (planned : List Planned) : Script :=
  { s with session := { s.session with server := ⟨planned, []⟩ } }

/-- What was sent since replies were last planned. -/
def sent (s : Script) : List Statement := s.session.server.sent.reverse

/-- One step with its planned replies. -/
def step (s : Script) (planned : List Planned) (step : Step) : Stepped :=
  let (answer, log, s) := (s.plan planned).perform step
  ⟨answer, log, s.sent, s⟩

/-- The end of a script: what is sent when a transaction is still open. -/
def leave (s : Script) : List Statement :=
  let s := s.plan []
  sent { s with session := Scripted.server.drop s.session }

end Script

end OutboxProvisioning.Sql
