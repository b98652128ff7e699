import OutboxProvisioning.Store

/-!
# Scripts on the store

A script is a list of steps taken one after another: calls on the store, transactions under
a name, events handled and polls. A step that would have to wait for the end of a transaction
is given up without effect.

* `Script.step`: one step.
* `Script.steps`: some steps.
-/

namespace OutboxProvisioning

/-- What is done inside a transaction. -/
inductive TransactionStep
  | workspaceExists (o : OrganizationId)
  /-- Without an identifier, one is drawn. -/
  | create (id : Option WorkspaceId) (o : OrganizationId) (time : Instant)
  | mark (id : EventId) (time : Instant)
  | commit
  | rollback
  /-- The transaction is dropped without a word. -/
  | drop

/-- One step of a script. -/
inductive Step
  | insert (e : Event)
  | event (id : EventId)
  | workspaceFor (o : OrganizationId)
  /-- Whether an event was published when the workspace of an organization was created; nothing
  if there is no such time. -/
  | sameTime (id : EventId) (o : OrganizationId)
  | counts
  | fail (point : FaultPoint) (on : Bool)
  | fetch (eventType : String) (limit : Nat)
  | openTransaction (name : String)
  | inside (name : String) (step : TransactionStep)
  | handle (cmd : Command)
  /-- Handles a stored event again. -/
  | redeliver (id : EventId)
  | poll (config : ConsumerConfig)

/-- What a step answers. -/
inductive Answer
  | done
  /-- The step would have had to wait. -/
  | blocked
  | noTransaction
  | refused (e : DomainError)
  | truth (b : Bool)
  | event (e : Option Event)
  | workspace (w : Option Workspace)
  | sameTime (b : Option Bool)
  /-- Pending events and workspaces. -/
  | counts (n : Option (Nat × Nat))
  | events (ids : List EventId)
  | noEvent
  | handled (r : Except ProvisioningError Provisioned)
  | polled (r : Except ProvisioningError Report)

/-- A store with the name of its open transaction and the draws not yet made. -/
structure Script where
  store : Store
  name : Option String
  draws : Nat → Draw
  /-- How many draws have been made. -/
  drawn : Nat

/-- An answer, what was logged, and the script after it. -/
structure Stepped where
  answer : Answer
  log : List Log.Entry
  script : Script

namespace Script

/-- An empty store. -/
def start (draws : Nat → Draw) : Script := ⟨.empty, none, draws, 0⟩

/-- The draw to be made next. -/
def draw (s : Script) : Draw := s.draws s.drawn

/-- An answer that changes nothing. -/
def reply (s : Script) (a : Answer) : Stepped := ⟨a, [], s⟩

/-- An answer of the store to a call that gives nothing. -/
def Answer.ofResult : Except DomainError Unit → Answer
  | .ok () => .done
  | .error e => .refused e

/-- Handles a command. -/
def handle (s : Script) (cmd : Command) : Stepped :=
  let (handled, store) := s.store.handle cmd s.draw
  ⟨.handled handled.result, handled.log, { s with store, drawn := s.drawn + 1 }⟩

/-- Takes over what a poll left. -/
def afterPoll (s : Script) (p : Polled Store) : Script :=
  let used := match p.result with
    | .ok r => r.fetched
    | .error _ => 0
  { s with store := p.state, drawn := s.drawn + used }

/-- The draws that are still to be made. -/
def nextDraws (s : Script) : Nat → Draw := fun i => s.draws (s.drawn + i)

/-- A poll. -/
def poll (s : Script) (config : ConsumerConfig) : Stepped :=
  let p := Store.backend.poll config s.nextDraws s.store
  ⟨.polled p.result, p.log, s.afterPoll p⟩

/-- A step inside the open transaction. -/
def inside (s : Script) : TransactionStep → Stepped
  | .workspaceExists o =>
    match s.store.answer (.workspaceExists o) with
    | (.ok b, _) => s.reply (.truth b)
    | (.error e, _) => s.reply (.refused e)
  | .create id o time =>
    let w : Workspace := ⟨id.getD s.draw.workspaceId, o, time⟩
    let (r, store) := s.store.answer (.createWorkspace w)
    ⟨Answer.ofResult r, [], { s with store, drawn := s.drawn + 1 }⟩
  | .mark id time =>
    let (r, store) := s.store.answer (.markPublished id time)
    ⟨Answer.ofResult r, [], { s with store }⟩
  | .commit =>
    let (r, store) := s.store.answer .commit
    ⟨Answer.ofResult r, [], { s with store, name := none }⟩
  | .rollback | .drop =>
    let (r, store) := s.store.answer .rollback
    ⟨Answer.ofResult r, [], { s with store, name := none }⟩

/-- Whether a step needs the store for itself. Faults of a fetch and of a payload are found
before that. -/
def needsStore (s : Script) : Step → Bool
  | .fail _ _ | .inside _ _ => false
  | .fetch _ _ | .poll _ => !s.store.faults.fetch
  | .handle cmd => cmd.subject.isOk
  | .insert _ | .event _ | .workspaceFor _ | .sameTime _ _ | .counts | .openTransaction _
  | .redeliver _ => true

/-- What a step answers when it would have to wait. -/
def waiting : Step → Answer
  | .sameTime _ _ => .sameTime none
  | .counts => .counts none
  | _ => .blocked

/-- A step that does not have to wait. -/
def perform (s : Script) : Step → Stepped
  | .insert e => ⟨.done, [], { s with store := s.store.insert e }⟩
  | .event id => s.reply (.event (s.store.event? id))
  | .workspaceFor o => s.reply (.workspace (s.store.workspace? o))
  | .sameTime id o =>
    match (s.store.event? id).bind Event.publishedAt, s.store.workspace? o with
    | some t, some w => s.reply (.sameTime (some (t = w.createdAt)))
    | _, _ => s.reply (.sameTime none)
  | .counts => s.reply (.counts (some (s.store.pendingCount, s.store.workspaceCount)))
  | .fail point on => ⟨.done, [], { s with store := s.store.setFault point on }⟩
  | .fetch eventType limit =>
    match s.store.fetch eventType limit with
    | (.ok events, _) => s.reply (.events (events.map Event.id))
    | (.error e, _) => s.reply (.refused e)
  | .openTransaction name =>
    let (r, store) := s.store.answer .beginTransaction
    ⟨Answer.ofResult r, [], { s with store, name := some name }⟩
  | .inside name step => if s.name = some name then s.inside step else s.reply .noTransaction
  | .handle cmd => s.handle cmd
  | .redeliver id =>
    match s.store.event? id with
    | some e => s.handle e.command
    | none => s.reply .noEvent
  | .poll config => s.poll config

/-- One step. The store may also be `reserved` for somebody who waited longer. -/
def step (reserved : Bool) (s : Script) (step : Step) : Stepped :=
  if (reserved || s.store.isOpen) && s.needsStore step then s.reply (waiting step)
  else s.perform step

/-- Some steps. Gives the answers, what was logged, and the script after them. -/
def steps : List Step → Script → List Answer × List Log.Entry × Script
  | [], s => ([], [], s)
  | step :: rest, s =>
    let stepped := s.step false step
    let (answers, log, s) := steps rest stepped.script
    (stepped.answer :: answers, stepped.log ++ log, s)

end Script

end OutboxProvisioning
