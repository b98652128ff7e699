import OutboxProvisioning.Batch
import OutboxProvisioning.Settings.Flaw
import OutboxProvisioning.Settings.Section

/-!
# Settings of the consumer

* `Consumer.toConfig`: how the consumer works with these settings.
* `Consumer.validate`: why it cannot.
-/

namespace OutboxProvisioning.Settings

/-- What the consumer looks for, and how often. -/
structure Consumer where
  eventType : String
  /-- Milliseconds between polls. -/
  pollInterval : Nat
  /-- The most events of one poll. -/
  batchSize : Nat
deriving DecidableEq, Repr

namespace Consumer

/-- What holds where nothing is set: created organizations, every five seconds, fifty at most. -/
def standard : Consumer := ⟨organizationCreated, 5000, 50⟩

instance : Inhabited Consumer := ⟨standard⟩

/-- How the consumer works. -/
def toConfig (c : Consumer) : ConsumerConfig :=
  ((ConsumerConfig.standard.withEventType c.eventType).withPollInterval
    c.pollInterval).withBatchSize c.batchSize

/-- Why the consumer cannot work with these settings. -/
def validate (c : Consumer) : Except Flaw Unit :=
  if (Text.trim c.eventType).isEmpty then .error (.missing "CONSUMER_EVENT_TYPE")
  else if c.pollInterval = 0 then .error .pollInterval
  else if c.batchSize = 0 then .error .batchSize
  else if 1000 < c.batchSize then .error .batchTooLarge
  else .ok ()

/-- The section while it is read. -/
structure Draft where
  eventType : Option String
  pollInterval : Option Nat
  batchSize : Option Nat

/-- The section of a draft. Every item has a default. -/
def ofDraft (d : Draft) : Except String Consumer :=
  .ok {
    eventType := d.eventType.getD standard.eventType
    pollInterval := d.pollInterval.getD standard.pollInterval
    batchSize := d.batchSize.getD standard.batchSize }

/-- The section of the consumer. -/
def layout : Section Draft Consumer where
  title := "struct ConsumerConfig"
  items :=
    [⟨.text, "event_type", Draft.eventType, fun d v => { d with eventType := some v }, true⟩,
      ⟨.number 64, "poll_interval_ms", Draft.pollInterval,
        fun d v => { d with pollInterval := some v }, true⟩,
      ⟨.number 32, "batch_size", Draft.batchSize, fun d v => { d with batchSize := some v }, true⟩]
  start := ⟨none, none, none⟩
  finish := ofDraft

/-- The settings of the consumer in JSON. -/
def reader : Json.Reader Consumer := layout.schema.reader

end Consumer

end OutboxProvisioning.Settings
