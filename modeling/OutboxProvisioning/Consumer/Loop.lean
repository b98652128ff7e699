import OutboxProvisioning.Batch

/-!
# The loop of the consumer

The loop polls when a tick is due and listens for a shutdown in between. The first tick is due
at once. A tick that is taken in time leaves the rhythm as it is; one that is taken more than
five milliseconds late sets the next a full period later. A shutdown is the flag being set or
its sender being gone; it is followed by one more poll.

* `Loop.turn`: what the loop does next, if it does not have to wait.
* `Loop.turn_rank`: at one moment only so many turns can be taken.
-/

namespace OutboxProvisioning

/-- Where the loop stands. -/
inductive Phase
  /-- Before it looks at the flag. -/
  | ready
  /-- Between polls, waiting for a tick or a signal. -/
  | waiting
  /-- About to poll; the last poll is `final`. -/
  | polling (final : Bool)
  /-- Waiting for the store in the middle of a poll. -/
  | queued (final : Bool)
  | stopped
deriving DecidableEq, Repr

/-- A signal to the loop. -/
inductive Signal
  | send (value : Bool)
  | dropSender
deriving DecidableEq, Repr

/-- The state of the loop. -/
structure Loop where
  /-- Milliseconds between ticks. -/
  period : Nat
  period_pos : 0 < period
  /-- When the next tick is due. -/
  due : Nat
  phase : Phase
  /-- The shutdown flag. -/
  flag : Bool
  /-- Whether a flag has been sent that the loop has not noticed. -/
  changed : Bool
  /-- Whether there is still somebody who can send. -/
  alive : Bool

namespace Loop

/-- How late a tick may be taken without a change of rhythm, in milliseconds. -/
def tolerance : Nat := 5

/-- The period of a configuration: at least a millisecond. -/
def periodOf (config : ConsumerConfig) : Nat := max config.pollInterval 1

/-- The loop before its first turn. -/
def start (config : ConsumerConfig) (flag : Bool) : Loop :=
  ⟨periodOf config, by unfold periodOf; omega, 0, .ready, flag, false, true⟩

/-- When the tick is due after one that is taken now. -/
def nextDue (l : Loop) (now : Nat) : Nat :=
  if l.due + tolerance < now then now + l.period else l.due + l.period

/-- Takes the tick that is due. -/
def takeTick (l : Loop) (now : Nat) : Loop :=
  { l with due := l.nextDue now, phase := .polling false }

/-- Takes notice of what was sent, or of the sender being gone. -/
def takeSignal (l : Loop) : Loop :=
  if l.changed then
    { l with changed := false, phase := if l.flag then .polling true else .ready }
  else { l with phase := .polling true }

/-- Whether there is a signal to take notice of. -/
def hasSignal (l : Loop) : Bool := l.changed || !l.alive

/-- What the loop does next at a moment, if it has not to wait for something. When a tick and a
signal are there together either may come first, as `tickFirst` says. -/
def turn (now : Nat) (tickFirst : Bool) (l : Loop) : Option Loop :=
  match l.phase with
  | .ready => some { l with phase := if l.flag then .polling true else .waiting }
  | .waiting =>
    if l.due ≤ now && (tickFirst || !l.hasSignal) then some (l.takeTick now)
    else if l.hasSignal then some l.takeSignal
    else none
  | .polling _ | .queued _ | .stopped => none

/-- After a poll. -/
def polled (l : Loop) (final : Bool) : Loop :=
  { l with phase := if final then .stopped else .ready }

/-- In the middle of a poll that has to wait for the store. -/
def queue (l : Loop) (final : Bool) : Loop := { l with phase := .queued final }

/-- What a signal changes. -/
def signal (l : Loop) : Signal → Loop
  | .send value => if l.alive then { l with flag := value, changed := true } else l
  | .dropSender => { l with alive := false }

/-- An upper bound on the turns and polls that are left at a moment. -/
def rank (l : Loop) (now : Nat) : Nat :=
  let live := 3 + 4 * (2 * (now + 1 - l.due) + if l.changed then 1 else 0)
  match l.phase with
  | .stopped => 0
  | .queued true => 1
  | .polling true => 2
  | .waiting => live
  | .ready => live + 1
  | .queued false => live + 2
  | .polling false => live + 3

theorem due_lt_nextDue (l : Loop) (now : Nat) : l.due < l.nextDue now := by
  have := l.period_pos
  unfold nextDue tolerance
  split <;> omega

/-- A turn leaves less to be done. -/
theorem turn_rank {l l' : Loop} {now : Nat} {tickFirst : Bool}
    (h : l.turn now tickFirst = some l') : l'.rank now < l.rank now := by
  obtain ⟨period, hp, due, phase, flag, changed, alive⟩ := l
  cases phase with
  | ready =>
    simp only [turn, Option.some.injEq] at h
    subst h
    cases flag <;> simp [rank]
    omega
  | waiting =>
    simp only [turn] at h
    split at h
    · next hd =>
      simp only [Bool.and_eq_true, decide_eq_true_eq] at hd
      simp only [Option.some.injEq] at h
      subst h
      have hlt := due_lt_nextDue ⟨period, hp, due, .waiting, flag, changed, alive⟩ now
      simp only at hlt
      simp only [rank, takeTick]
      cases changed <;> simp <;> omega
    · split at h
      · simp only [Option.some.injEq] at h
        subst h
        cases changed <;> cases flag <;> simp [takeSignal, rank] <;> omega
      · simp at h
  | polling final => simp [turn] at h
  | queued final => simp [turn] at h
  | stopped => simp [turn] at h

/-- A loop that waits has no tick due. -/
theorem due_of_waiting {l : Loop} {now : Nat} {tickFirst : Bool}
    (h : l.turn now tickFirst = none) (hw : l.phase = .waiting) : now < l.due := by
  simp only [turn, hw] at h
  split at h
  · simp at h
  · next hd =>
    split at h
    · simp at h
    · next hs =>
      simp only [Bool.not_eq_true] at hs
      simp [hs] at hd
      omega

end Loop

namespace Log

/-- The loop begins. -/
def started (config : ConsumerConfig) : Entry :=
  ⟨.consumer, .info, "Outbox consumer started",
    [("event_type", .text config.eventType),
      ("poll_interval_ms", .number (Loop.periodOf config)),
      ("batch_size", .number config.batchSize)]⟩

/-- The loop has ended. -/
def stopped (config : ConsumerConfig) : Entry :=
  ⟨.consumer, .info, "Outbox consumer stopped", [("event_type", .text config.eventType)]⟩

end Log

end OutboxProvisioning
