import OutboxProvisioning.Consumer.Loop
import OutboxProvisioning.Store.Script

/-!
# The loop beside other users of the store

Time is counted in milliseconds and passes only between moments: work takes none. At a moment
others take steps on the store, a signal may be sent, and then the loop does all it can. A poll
that needs the store while a transaction of others is open waits for its end, and is served
before the others' next step.

* `Running.settle`: all that the loop can do at a moment.
* `Running.advance`: the ticks up to a moment.
* `Running.moment`: what happens at a moment.
-/

namespace OutboxProvisioning

/-- The loop and the store at a moment, with the entries logged so far in reverse. -/
structure Running where
  config : ConsumerConfig
  loop : Loop
  script : Script
  now : Nat
  log : List (Nat × Log.Entry)

namespace Running

/-- Logs entries at this moment. -/
def note (r : Running) (entries : List Log.Entry) : Running :=
  { r with log := (entries.map fun e => (r.now, e)).reverse ++ r.log }

/-- The loop at time 0, before its first turn. -/
def start (config : ConsumerConfig) (flag : Bool) (script : Script) : Running :=
  ⟨config, .start config flag, script, 0, [(0, Log.started config)]⟩

/-- What a poll leaves behind. -/
def afterPoll (r : Running) (final : Bool) (p : Polled Store) : Running :=
  let stopped := if final then [Log.stopped r.config] else []
  { r with loop := r.loop.polled final, script := r.script.afterPoll p }.note
    (p.log ++ [Log.batch p.result] ++ stopped)

/-- Starts a poll. Unless its fetch fails at once, it waits while the store is not free. -/
def poll (r : Running) (final : Bool) : Running :=
  if r.script.store.isOpen && !r.script.store.faults.fetch then
    { r with loop := r.loop.queue final }
  else
    r.afterPoll final (Store.backend.poll r.config r.script.nextDraws r.script.store)

/-- Goes on with a poll that has waited: whether its fetch is to fail was found before. -/
def resume (r : Running) (final : Bool) : Running :=
  let s := r.script.store
  let events := s.oldest r.config.eventType r.config.batchSize
  r.afterPoll final (Store.backend.pollFetched r.script.nextDraws (.ok events, s))

/-- What the loop does next at this moment, if anything. Signals come before ticks. -/
def turn (r : Running) : Option Running :=
  match r.loop.phase with
  | .polling final => some (r.poll final)
  | .queued final => if r.script.store.isOpen then none else some (r.resume final)
  | _ => (r.loop.turn r.now false).map fun loop => { r with loop }

theorem turn_rank {r r' : Running} (h : r.turn = some r') :
    r'.loop.rank r'.now < r.loop.rank r.now := by
  obtain ⟨config, ⟨period, hp, due, phase, flag, changed, alive⟩, script, now, log⟩ := r
  have other : ∀ {l : Loop} {r' : Running}, (l.turn now false).map
      (fun loop => (⟨config, loop, script, now, log⟩ : Running)) = some r' →
      r'.loop.rank r'.now < l.rank now := by
    intro l r' h
    simp only [Option.map_eq_some_iff] at h
    obtain ⟨loop, hl, rfl⟩ := h
    exact Loop.turn_rank hl
  cases phase with
  | polling final =>
    simp only [turn, Option.some.injEq] at h
    subst h
    clear other
    unfold poll
    split
    · cases final <;> cases changed <;> simp [Loop.rank, Loop.queue]
    · cases final <;> cases changed <;>
        simp [Loop.rank, afterPoll, note, Loop.polled]
  | queued final =>
    simp only [turn] at h
    split at h
    · simp at h
    · simp only [Option.some.injEq] at h
      subst h
      clear other
      cases final <;> simp [Loop.rank, resume, afterPoll, note, Loop.polled]
  | ready => exact other h
  | waiting => exact other h
  | stopped => exact other h

theorem turn_now {r r' : Running} (h : r.turn = some r') : r'.now = r.now := by
  unfold turn at h
  split at h
  · simp only [Option.some.injEq] at h
    subst h
    unfold poll
    split <;> rfl
  · split at h
    · simp at h
    · simp only [Option.some.injEq] at h
      subst h
      rfl
  · simp only [Option.map_eq_some_iff] at h
    obtain ⟨loop, -, rfl⟩ := h
    rfl

/-- All that the loop can do at this moment. -/
def settle (r : Running) : Running :=
  match h : r.turn with
  | none => r
  | some r' =>
    have := turn_rank h
    settle r'
termination_by r.loop.rank r.now

theorem settle_now (r : Running) : r.settle.now = r.now := by
  fun_induction settle r with
  | case1 => rfl
  | case2 r r' h _ ih => rw [ih, turn_now h]

theorem turn_settle (r : Running) : r.settle.turn = none := by
  fun_induction settle r with
  | case1 r h => exact h
  | case2 r r' h _ ih => exact ih

theorem due_settle {r : Running} (h : r.settle.loop.phase = .waiting) :
    r.now < r.settle.loop.due := by
  have ht := turn_settle r
  rw [turn, h] at ht
  simp only [Option.map_eq_none_iff] at ht
  rw [settle_now] at ht
  exact Loop.due_of_waiting ht h

/-- Whether a tick is due by a moment and the loop waits for it. -/
def isDueBy (r : Running) (limit : Nat) : Bool :=
  r.loop.phase = .waiting && r.loop.due ≤ limit

/-- Lets the ticks come that are due by a moment, each at its time. -/
def advance (r : Running) (limit : Nat) : Running :=
  if h : r.isDueBy limit then
    let next := settle { r with now := r.loop.due }
    if hn : next.isDueBy limit then
      have : limit + 1 - next.loop.due < limit + 1 - r.loop.due := by
        simp only [isDueBy, Bool.and_eq_true, decide_eq_true_eq] at h hn
        have hlt : r.loop.due < next.loop.due := due_settle hn.1
        omega
      advance next limit
    else next
  else r
termination_by limit + 1 - r.loop.due

/-- Whether the loop has waited for a transaction of others that has just ended. -/
def isReserved (r : Running) : Bool :=
  match r.loop.phase with
  | .queued _ => !r.script.store.isOpen
  | _ => false

/-- A step of others. -/
def step (r : Running) (step : Step) : Answer × Running :=
  let stepped := r.script.step r.isReserved step
  (stepped.answer, { r with script := stepped.script }.note stepped.log)

/-- Steps of others, one after another. -/
def steps : List Step → Running → List Answer × Running
  | [], r => ([], r)
  | s :: ss, r =>
    let (a, r) := r.step s
    let (as, r) := steps ss r
    (a :: as, r)

/-- Whether the loop has not stopped. -/
def isRunning (r : Running) : Bool := r.loop.phase ≠ .stopped

/-- Something that happens at a time. -/
structure Moment where
  time : Nat
  steps : List Step
  signal : Option Signal

/-- What is seen of a moment. -/
structure Seen where
  answers : List Answer
  /-- Whether the loop had not stopped before. -/
  running : Bool

/-- Everything at a moment: ticks up to it, the steps, the signal, and what the loop makes of
them. -/
def moment (r : Running) (m : Moment) : Seen × Running :=
  let r := { r.advance m.time with now := m.time }
  let (answers, after) := r.steps m.steps
  let signalled := match m.signal with
    | some s => { after with loop := after.loop.signal s }
    | none => after
  (⟨answers, r.isRunning⟩, signalled.settle)

/-- Moments one after another. -/
def moments : List Moment → Running → List Seen × Running
  | [], r => ([], r)
  | m :: ms, r =>
    let (seen, r) := r.moment m
    let (rest, r) := moments ms r
    (seen :: rest, r)

/-- The entries logged, in order. -/
def entries (r : Running) : List (Nat × Log.Entry) := r.log.reverse

end Running

/-- What is seen of a loop from its start on. -/
structure Observed where
  seen : List Running.Seen
  running : Running

/-- A loop from its start until a millisecond after the last moment. -/
def observe (config : ConsumerConfig) (flag : Bool) (script : Script) (ms : List Running.Moment) :
    Observed :=
  let (seen, r) := Running.moments ms (Running.start config flag script).settle
  ⟨seen, r.advance (r.now + 1)⟩

end OutboxProvisioning
