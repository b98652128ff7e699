import OutboxProvisioning.Wire
import OutboxProvisioning.DomainError

/-!
# Events of the outbox

An event is a fact that waits to be acted on. Only its publication changes, once, from pending
to published.

* `Event.markPublished`: publishes a pending event.
* `Event.reader`, `Event.write`: its JSON form.
-/

namespace OutboxProvisioning

/-- The type of the events that are provisioned by default. -/
def organizationCreated : String := "organization.created"

/-- A fact in the outbox. -/
structure Event where
  id : EventId
  /-- The entity that the event is about. -/
  aggregateId : String
  /-- Which kind of fact it is, and so how the payload is read. -/
  eventType : String
  payload : Bytes
  published : Bool
  publishedAt : Option Instant
  createdAt : Instant
deriving DecidableEq, Inhabited

namespace Event

/-- A pending event made at a time. -/
def new (id : EventId) (now : Instant) (aggregateId eventType : String) (payload : Bytes) :
    Event :=
  ⟨id, aggregateId, eventType, payload, false, none, now⟩

/-- Whether an event still waits. -/
def isPending (e : Event) : Bool := !e.published

/-- An event of the same content made at another time. -/
def withCreatedAt (e : Event) (t : Instant) : Event := { e with createdAt := t }

/-- An event after its publication. -/
def publishedFrom (e : Event) (t : Instant) : Event :=
  { e with published := true, publishedAt := some t }

/-- Publishes a pending event. -/
def markPublished (e : Event) (t : Instant) : Except DomainError Event :=
  if e.published then
    .error (.plain .eventAlreadyPublished ("Event " ++ toString e.id ++ " is already published"))
  else .ok (e.publishedFrom t)

/-- An event while it is read. -/
structure Draft where
  id : Option EventId
  aggregateId : Option String
  eventType : Option String
  payload : Option (List Nat)
  published : Option Bool
  publishedAt : Option (Option Instant)
  createdAt : Option Instant

open Json (Member Schema Reader required)

/-- The seven members of an event. -/
def members : List (Member Draft) :=
  [⟨"id", fun d => d.id.isSome,
      fun d => EventId.reader.map fun a => { d with id := some a }, false⟩,
    ⟨"aggregate_id", fun d => d.aggregateId.isSome,
      fun d => Reader.text.map fun a => { d with aggregateId := some a }, false⟩,
    ⟨"event_type", fun d => d.eventType.isSome,
      fun d => Reader.text.map fun a => { d with eventType := some a }, false⟩,
    ⟨"payload", fun d => d.payload.isSome,
      fun d => (Reader.unsigned 8).list.map fun a => { d with payload := some a }, false⟩,
    ⟨"published", fun d => d.published.isSome,
      fun d => Reader.boolean.map fun a => { d with published := some a }, false⟩,
    ⟨"published_at", fun d => d.publishedAt.isSome,
      fun d => Instant.reader.orNull.map fun a => { d with publishedAt := some a }, false⟩,
    ⟨"created_at", fun d => d.createdAt.isSome,
      fun d => Instant.reader.map fun a => { d with createdAt := some a }, false⟩]

/-- All members have to be there, but the time of publication. -/
def ofDraft (d : Draft) : Except String Event := do
  let id ← required "id" d.id
  let aggregateId ← required "aggregate_id" d.aggregateId
  let eventType ← required "event_type" d.eventType
  let payload ← required "payload" d.payload
  let published ← required "published" d.published
  let createdAt ← required "created_at" d.createdAt
  return {
    id, aggregateId, eventType
    payload := payload.map UInt8.ofNat
    published
    publishedAt := d.publishedAt.join
    createdAt }

/-- How an event is read. -/
def schema : Schema Draft Event :=
  ⟨"struct OutboxEvent", members, ⟨none, none, none, none, none, none, none⟩, ofDraft⟩

/-- The reader of events. -/
def reader : Reader Event := schema.reader

/-- An event as an object; the payload is an array of its octets. -/
def write (e : Event) : List Char :=
  Json.writeObject [("id", e.id.uuid.write), ("aggregate_id", Json.writeText e.aggregateId),
    ("event_type", Json.writeText e.eventType),
    ("payload", Json.writeList (e.payload.map fun b => Json.writeNat b.toNat)),
    ("published", Json.writeBoolean e.published),
    ("published_at", Json.writeOption Instant.write e.publishedAt),
    ("created_at", e.createdAt.write)]

/-- The JSON text of an event. -/
def json (e : Event) : String := String.ofList e.write

end Event

end OutboxProvisioning
