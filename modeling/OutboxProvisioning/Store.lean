import OutboxProvisioning.Batch
import OutboxProvisioning.Table

/-!
# The store in memory

Events under their identifiers and workspaces under their organizations. At most one
transaction is open at a time; it keeps its writes aside until it is committed. Faults can be
switched on to make single calls fail.

* `Store.fetch`: the oldest pending events of a type.
* `Store.answer`: the answers to the calls of a transaction.
* `Store.backend`: the store as one that polls can use.
-/

namespace OutboxProvisioning

/-- The calls that can be made to fail. -/
inductive FaultPoint
  | fetch
  | createWorkspace
  | markPublished
  | commit
deriving DecidableEq, Repr

/-- Which calls fail. -/
structure Faults where
  fetch : Bool
  createWorkspace : Bool
  markPublished : Bool
  commit : Bool
deriving DecidableEq, Repr

namespace Faults

/-- No call fails. -/
def none : Faults := ⟨false, false, false, false⟩

/-- Makes a call fail or work from now on. -/
def set (f : Faults) (point : FaultPoint) (on : Bool) : Faults :=
  match point with
  | .fetch => { f with fetch := on }
  | .createWorkspace => { f with createWorkspace := on }
  | .markPublished => { f with markPublished := on }
  | .commit => { f with commit := on }

end Faults

/-- The writes of an open transaction. -/
structure Staged where
  workspaces : Table OrganizationId Workspace
  /-- The events to publish, and when. -/
  published : Table EventId Instant
deriving Inhabited

/-- Events and workspaces, the calls that fail, and the open transaction. -/
structure Store where
  events : Table EventId Event
  workspaces : Table OrganizationId Workspace
  faults : Faults
  transaction : Option Staged

namespace Store

/-- Nothing stored, no faults, no transaction. -/
def empty : Store := ⟨.empty, .empty, .none, none⟩

instance : Inhabited Store := ⟨empty⟩

/-- Whether a transaction is open. All others who need the store wait for its end. -/
def isOpen (s : Store) : Bool := s.transaction.isSome

/-- Adds an event, in place of one with the same identifier. -/
def insert (s : Store) (e : Event) : Store := { s with events := s.events.insert e.id e }

/-- The stored event with an identifier. -/
def event? (s : Store) (id : EventId) : Option Event := s.events.find? id

/-- The workspace of an organization. -/
def workspace? (s : Store) (o : OrganizationId) : Option Workspace := s.workspaces.find? o

/-- Makes a call fail or work from now on. -/
def setFault (s : Store) (point : FaultPoint) (on : Bool) : Store :=
  { s with faults := s.faults.set point on }

/-- The number of pending events of all types. -/
def pendingCount (s : Store) : Nat := (s.events.values.filter Event.isPending).length

/-- The number of workspaces. -/
def workspaceCount (s : Store) : Nat := s.workspaces.size

/-- The order in which events are fetched: older ones first, then by identifier. -/
def notAfter (a b : Event) : Bool :=
  ((a.createdAt.compareTo b.createdAt).then (compare a.id.uuid b.id.uuid)).isLE

/-- The pending events of a type. -/
def pending (s : Store) (eventType : String) : List Event :=
  s.events.values.filter fun e => e.isPending && e.eventType = eventType

/-- The oldest pending events of a type, at most so many. -/
def oldest (s : Store) (eventType : String) (limit : Nat) : List Event :=
  ((s.pending eventType).mergeSort notAfter).take limit

/-- Fetches the oldest pending events of a type. -/
def fetch (eventType : String) (limit : Nat) (s : Store) :
    Except DomainError (List Event) × Store :=
  if s.faults.fetch then (.error (.database "Simulated fetch failure"), s)
  else (.ok (s.oldest eventType limit), s)

/-- The answer to a call inside a transaction when none is open. -/
def notOpen : DomainError := .database "No transaction is open"

/-- Whether an organization has a workspace, in the store or in the writes of a transaction. -/
def hasWorkspace (s : Store) (t : Staged) (o : OrganizationId) : Bool :=
  s.workspaces.contains o || t.workspaces.contains o

/-- Adds a workspace to the writes of a transaction. -/
def stageWorkspace (s : Store) (t : Staged) (w : Workspace) : Except DomainError Staged :=
  let named (e : DomainError) := e.withDetail "organization_id" (toString w.organizationId)
  if s.faults.createWorkspace then
    .error (named (.database "Simulated workspace insert failure"))
  else if s.hasWorkspace t w.organizationId then
    .error (named (.plain .workspaceExists "Organization already has a billing workspace"))
  else .ok { t with workspaces := t.workspaces.insert w.organizationId w }

/-- Adds the publication of an event to the writes of a transaction. -/
def stagePublication (s : Store) (t : Staged) (id : EventId) (time : Instant) :
    Except DomainError Staged :=
  let named (e : DomainError) := e.withDetail "event_id" (toString id)
  if s.faults.markPublished then .error (named (.database "Simulated publish update failure"))
  else
    match s.event? id with
    | none => .error (named (.plain .eventNotFound "Event not found"))
    | some e =>
      if !e.isPending || t.published.contains id then
        .error (named (.plain .eventAlreadyPublished "Event already published"))
      else .ok { t with published := t.published.insert id time }

/-- Publishes events one after another, up to the first that cannot be published. -/
def publishAll : List (EventId × Instant) → Table EventId Event →
    Except DomainError Unit × Table EventId Event
  | [], events => (.ok (), events)
  | (id, time) :: rest, events =>
    match events.find? id with
    | none => publishAll rest events
    | some e =>
      match e.markPublished time with
      | .error err => (.error err, events)
      | .ok e => publishAll rest (events.insert id e)

/-- Ends the open transaction with its writes. When the commit fails they are lost. -/
def commit (s : Store) (t : Staged) : Except DomainError Unit × Store :=
  let closed := { s with transaction := none }
  if s.faults.commit then (.error (.database "Simulated commit failure"), closed)
  else
    match publishAll t.published.entries s.events with
    | (.error e, events) => (.error e, { closed with events })
    | (.ok (), events) =>
      (.ok (), { closed with events, workspaces := s.workspaces.insertAll t.workspaces })

/-- Stages a write of the open transaction. -/
def stage (s : Store) (write : Staged → Except DomainError Staged) :
    Except DomainError Unit × Store :=
  match s.transaction with
  | none => (.error notOpen, s)
  | some t =>
    match write t with
    | .error e => (.error e, s)
    | .ok t => (.ok (), { s with transaction := some t })

/-- The answer to a call. -/
def answer : (c : Call) → Store → c.Answer × Store
  | .beginTransaction, s =>
    if s.isOpen then (.error (.database "A transaction is open"), s)
    else (.ok (), { s with transaction := some default })
  | .workspaceExists o, s =>
    match s.transaction with
    | none => (.error notOpen, s)
    | some t => (.ok (s.hasWorkspace t o), s)
  | .createWorkspace w, s => s.stage fun t => s.stageWorkspace t w
  | .markPublished id time, s => s.stage fun t => s.stagePublication t id time
  | .commit, s =>
    match s.transaction with
    | none => (.error notOpen, s)
    | some t => s.commit t
  | .rollback, s => (.ok (), { s with transaction := none })

/-- The store as one that polls can use. -/
def backend : Backend Store := ⟨fetch, answer, fun s => ([], s)⟩

/-- Provisions for an event. -/
def handle (s : Store) (cmd : Command) (draw : Draw) : Handled × Store :=
  (OutboxProvisioning.handle cmd draw).run answer s

/-- Whether the workspace that a result reports is the one stored. -/
def confirms (s : Store) (p : Provisioned) : Bool :=
  match p.effect with
  | .alreadyProvisioned => true
  | .created id => (s.workspace? p.organizationId).map Workspace.id = some id

end Store

end OutboxProvisioning
