import OutboxProvisioning.Provision

/-!
# Polls

A poll fetches pending events of one type and provisions for them in order. An event that
fails is reported and stays pending; the others are not affected. Only a failed fetch ends a
poll early.

* `Backend`: what a poll needs of a store.
* `Backend.poll`: one poll.
* `Report`: what came of it.
-/

namespace OutboxProvisioning

/-- How the worker consumes the outbox. -/
structure ConsumerConfig where
  /-- The type of the events to consume. -/
  eventType : String
  /-- Milliseconds between polls. -/
  pollInterval : Nat
  /-- The most events of one poll. -/
  batchSize : Nat
deriving DecidableEq, Repr

namespace ConsumerConfig

/-- Created organizations, every five seconds, fifty at most. -/
def standard : ConsumerConfig := ⟨organizationCreated, 5000, 50⟩

instance : Inhabited ConsumerConfig := ⟨standard⟩

/-- The same with another type of events. -/
def withEventType (c : ConsumerConfig) (t : String) : ConsumerConfig := { c with eventType := t }

/-- The same with other milliseconds between polls. -/
def withPollInterval (c : ConsumerConfig) (n : Nat) : ConsumerConfig := { c with pollInterval := n }

/-- The same with another bound on the events of a poll. -/
def withBatchSize (c : ConsumerConfig) (n : Nat) : ConsumerConfig := { c with batchSize := n }

end ConsumerConfig

/-- What came of one event of a poll. -/
structure EventOutcome where
  eventId : EventId
  result : Except ProvisioningError Provisioned

/-- What came of the events of a poll, in the order of processing. -/
structure Report where
  outcomes : List EventOutcome

namespace Report

/-- The number of events fetched. -/
def fetched (r : Report) : Nat := r.outcomes.length

/-- The number of events published. -/
def published (r : Report) : Nat := (r.outcomes.filter fun o => o.result.isOk).length

/-- The events that failed, with their errors. -/
def failures (r : Report) : List (EventId × ProvisioningError) :=
  r.outcomes.filterMap fun o =>
    match o.result with
    | .error e => some (o.eventId, e)
    | .ok _ => none

/-- The number of events that failed. -/
def failed (r : Report) : Nat := r.failures.length

/-- What came of an event. -/
def outcome? (r : Report) (id : EventId) : Option EventOutcome :=
  r.outcomes.find? fun o => o.eventId = id

end Report

namespace Log

/-- An event failed: a warning when no other attempt can help, else an error. -/
def failure (event : EventId) (e : ProvisioningError) : Entry :=
  let fields := [("event_id", Field.text (toString event)), ("code", .text e.code.name),
    ("error", .text e.message)]
  if e.isRetryable then ⟨.consumer, .error, "Failed to process outbox event", fields⟩
  else ⟨.consumer, .warn, "Rejected malformed outbox event", fields⟩

end Log

/-- The entries of one event: those of its handling, and one more when it failed. -/
def Handled.entries (h : Handled) (event : EventId) : List Log.Entry :=
  match h.result with
  | .ok _ => h.log
  | .error e => h.log ++ [Log.failure event e]

/-- What a poll needs of a store with states `σ`. -/
structure Backend (σ : Type) where
  /-- The pending events of a type, oldest first, at most so many. -/
  fetch : String → Nat → σ → Except DomainError (List Event) × σ
  /-- The answer to a call inside a transaction. -/
  answer : (c : Call) → σ → c.Answer × σ
  /-- What the store itself has reported since this was last asked. -/
  reports : σ → List Log.Entry × σ

/-- What a poll leaves: its report, its log entries and the store. -/
structure Polled (σ : Type) where
  result : Except ProvisioningError Report
  log : List Log.Entry
  state : σ

namespace Backend

variable {σ : Type} (b : Backend σ)

/-- Provisions for events in order; the draws are those from number `first` on. The store reports
when a transaction begins, which is before anything else of an event is reported. -/
def process (draws : Nat → Draw) (first : Nat) :
    List Event → σ → List EventOutcome × List Log.Entry × σ
  | [], s => ([], [], s)
  | e :: es, s =>
    let (handled, s) := (handle e.command (draws first)).run b.answer s
    let (reports, s) := b.reports s
    let (outcomes, log, s) := process draws (first + 1) es s
    (⟨e.id, handled.result⟩ :: outcomes, reports ++ handled.entries e.id ++ log, s)

/-- A poll after its fetch. -/
def pollFetched (draws : Nat → Draw) (fetched : Except DomainError (List Event) × σ) : Polled σ :=
  let (reports, s) := b.reports fetched.2
  match fetched.1 with
  | .error e => ⟨.error (.fetch e.text), reports, s⟩
  | .ok events =>
    let (outcomes, log, s) := b.process draws 0 events s
    ⟨.ok ⟨outcomes⟩, reports ++ log, s⟩

/-- One poll. -/
def poll (config : ConsumerConfig) (draws : Nat → Draw) (s : σ) : Polled σ :=
  b.pollFetched draws (b.fetch config.eventType config.batchSize s)

end Backend

namespace Log

/-- What the loop adds to a poll: nothing was fetched, or how many events were, or why not. -/
def batch : Except ProvisioningError Report → Entry
  | .error e => ⟨.consumer, .error, "Outbox poll failed", [("error", .text e.message)]⟩
  | .ok r =>
    if r.fetched = 0 then ⟨.consumer, .trace, "No pending outbox events", []⟩
    else ⟨.consumer, .info, "Processed outbox batch",
      [("fetched", .number r.fetched), ("published", .number r.published),
        ("failed", .number r.failed)]⟩

end Log

end OutboxProvisioning
