import OutboxProvisioning.Payload
import OutboxProvisioning.Event
import OutboxProvisioning.Workspace
import OutboxProvisioning.Log

/-!
# Provisioning one event

The payload is decoded first. Then one transaction finds out whether the organization has a
workspace, creates it if not, and flags the event as published; it is committed when all of
this worked and rolled back when anything failed. What is done next depends on the answers of
the store alone, so the work is a program of calls that any store can answer.

* `Call`, `Program`: calls on a store and what follows each answer.
* `handle`: the program for one event.
* `Program.run`: a program together with a store that answers.
-/

namespace OutboxProvisioning

/-- What is taken from outside for one event: the time, and an identifier nobody has used. -/
structure Draw where
  now : Instant
  workspaceId : WorkspaceId
deriving Inhabited

/-- The order to provision for an event. -/
structure Command where
  eventId : EventId
  payload : Bytes
deriving DecidableEq

/-- The order that a stored event gives. -/
def Event.command (e : Event) : Command := ⟨e.id, e.payload⟩

/-- What a transaction did for the organization. -/
inductive Effect
  | created (id : WorkspaceId)
  /-- There was a workspace; only the event was published. -/
  | alreadyProvisioned
deriving DecidableEq, Repr

/-- The result of an event that was provisioned. -/
structure Provisioned where
  organizationId : OrganizationId
  effect : Effect
deriving DecidableEq, Repr

/-- A call on a store. All but the first are made inside a transaction; the last two end it. -/
inductive Call
  | beginTransaction
  | workspaceExists (o : OrganizationId)
  | createWorkspace (w : Workspace)
  | markPublished (e : EventId) (t : Instant)
  | commit
  | rollback
deriving DecidableEq

/-- What a store answers. -/
abbrev Call.Answer : Call → Type
  | .workspaceExists _ => Except DomainError Bool
  | _ => Except DomainError Unit

/-- Calls on a store, each with what follows its answer. -/
inductive Program (α : Type)
  | done (a : α)
  | call (c : Call) (next : c.Answer → Program α)

namespace Program

/-- One program after another. -/
def bind : Program α → (α → Program β) → Program β
  | .done a, f => f a
  | .call c next, f => .call c fun answer => (next answer).bind f

/-- Runs a program on a store that answers calls and changes its state. -/
def run (answer : (c : Call) → σ → c.Answer × σ) : Program α → σ → α × σ
  | .done a, s => (a, s)
  | .call c next, s => (next (answer c s).1).run answer (answer c s).2

end Program

/-- The payload of a command and the organization it names. -/
def Command.subject (cmd : Command) : Except ProvisioningError (Payload × OrganizationId) :=
  match Payload.decode cmd.payload with
  | .error e => .error e
  | .ok p => p.organization.map fun o => (p, o)

/-- What came of a command, and what was reported on the way. -/
structure Handled where
  result : Except ProvisioningError Provisioned
  log : List Log.Entry

namespace Log

/-- A workspace was created for an organization. -/
def created (cmd : Command) (p : Payload) (o : OrganizationId) (w : WorkspaceId) : Entry :=
  ⟨.provisioning, .info, "Provisioned billing workspace",
    [("event_id", .text (toString cmd.eventId)), ("organization_id", .text (toString o)),
      ("workspace_id", .text (toString w)), ("country_code", .text p.countryCode),
      ("default_currency", .text p.defaultCurrency)]⟩

/-- An organization had its workspace before. -/
def alreadyProvisioned (cmd : Command) (o : OrganizationId) : Entry :=
  ⟨.provisioning, .debug, "Billing workspace already exists, marking event published",
    [("event_id", .text (toString cmd.eventId)), ("organization_id", .text (toString o))]⟩

/-- A transaction that failed could not be rolled back either. -/
def rollbackFailed (cmd : Command) (e : DomainError) : Entry :=
  ⟨.provisioning, .warn, "Rollback failed after provisioning error",
    [("event_id", .text (toString cmd.eventId)), ("error", .text e.text)]⟩

end Log

/-- Flags the event inside the transaction. -/
def publish (event : EventId) (now : Instant) (effect : Effect) :
    Program (Except ProvisioningError Effect) :=
  .call (.markPublished event now) fun
    | .error e => .done (.error (.markPublished e.text))
    | .ok () => .done (.ok effect)

/-- The body of the transaction. -/
def apply (event : EventId) (o : OrganizationId) (draw : Draw) :
    Program (Except ProvisioningError Effect) :=
  .call (.workspaceExists o) fun
    | .error e => .done (.error (.resourceCreation e.text))
    | .ok true => publish event draw.now .alreadyProvisioned
    | .ok false =>
      .call (.createWorkspace ⟨draw.workspaceId, o, draw.now⟩) fun
        | .error e => .done (.error (.resourceCreation e.text))
        | .ok () => publish event draw.now (.created draw.workspaceId)

/-- The report of an effect that has been committed. -/
def Effect.report (effect : Effect) (cmd : Command) (p : Payload) (o : OrganizationId) :
    Log.Entry :=
  match effect with
  | .created w => Log.created cmd p o w
  | .alreadyProvisioned => Log.alreadyProvisioned cmd o

/-- Ends the transaction, by a commit when its body worked. -/
def settle (cmd : Command) (p : Payload) (o : OrganizationId) :
    Except ProvisioningError Effect → Program Handled
  | .error e =>
    .call .rollback fun
      | .error r => .done ⟨.error e, [Log.rollbackFailed cmd r]⟩
      | .ok () => .done ⟨.error e, []⟩
  | .ok effect =>
    .call .commit fun
      | .error e => .done ⟨.error (.transaction e.text), []⟩
      | .ok () => .done ⟨.ok ⟨o, effect⟩, [effect.report cmd p o]⟩

/-- Provisions for an event. -/
def handle (cmd : Command) (draw : Draw) : Program Handled :=
  match cmd.subject with
  | .error e => .done ⟨.error e, []⟩
  | .ok (p, o) =>
    .call .beginTransaction fun
      | .error e => .done ⟨.error (.transaction e.text), []⟩
      | .ok () => (apply cmd.eventId o draw).bind (settle cmd p o)

end OutboxProvisioning
