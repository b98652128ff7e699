import OutboxProvisioning.Consumer.Timeline
import OutboxProvisioning.Proofs.Crowd

/-!
# The loop at work

The loop takes turns: it looks at the flag, waits for a tick or a signal, and polls. Between two of
its turns, and also while a poll is under way, signals come, time passes, and others do to the store
whatever they like.

* `Operation.turn`: one turn, with all that happens meanwhile.
* `Operation.turn_cases`: what a turn can be.
* `Operation.Told`: what the loop has done is whole rounds and the beginning of one more.
* `Running.settle_turns`: the loop with nobody around takes such turns.
-/

namespace OutboxProvisioning

open History (after)

/-- What happens while a poll is under way. -/
structure Meanwhile where
  /-- The switches of faults before the fetch and before each call. -/
  switches : List Switches
  /-- What others do after the fetch and after each event. -/
  visits : List (List Deed)
  signals : List Signal
  /-- The milliseconds that pass. -/
  ms : Nat

/-- Nothing happens meanwhile. -/
def Meanwhile.nothing : Meanwhile := ⟨[], [], [], 0⟩

/-- What the loop does, and what it finds. -/
inductive Act
  /-- It looks at the flag before it waits. -/
  | looked (flag : Bool)
  | ticked
  /-- Something was sent, and this is the flag now. -/
  | heard (flag : Bool)
  /-- Nobody is there any more who could send. -/
  | gone
  | polled (result : Except ProvisioningError Report)

/-- What happens to a loop at work. -/
inductive Happening
  | others (deeds : List Deed)
  | signal (x : Signal)
  | wait (ms : Nat)
  /-- The loop takes a turn, a tick before a signal or the other way round. -/
  | turn (tickFirst : Bool) (draws : Nat → Draw) (meanwhile : Meanwhile)

/-- The signals that come with a happening. -/
def Happening.signals : Happening → List Signal
  | .signal x => [x]
  | .turn _ _ m => m.signals
  | .others _ | .wait _ => []

/-- The milliseconds that pass with a happening. -/
def Happening.ms : Happening → Nat
  | .wait ms => ms
  | .turn _ _ m => m.ms
  | .others _ | .signal _ => 0

/-- Whether the loop takes a turn. -/
def Happening.isTurn : Happening → Bool
  | .turn _ _ _ => true
  | _ => false

/-- The loop at work on a store with a history, and all its acts. -/
structure Operation where
  config : ConsumerConfig
  loop : Loop
  past : List Deed
  now : Nat
  acts : List Act

/-- What a turn was that is not a poll. -/
def Loop.actTo (l l' : Loop) : Act :=
  match l.phase with
  | .waiting =>
    if l'.phase = .polling false then .ticked else if l.changed then .heard l.flag else .gone
  | _ => .looked l.flag

namespace Operation

/-- The loop before its first turn, and an empty store. -/
def start (config : ConsumerConfig) (flag : Bool) : Operation :=
  ⟨config, .start config flag, [], 0, []⟩

/-- The store that the history leaves. -/
def store (o : Operation) : Store := (after o.past).store

/-- A poll. -/
def poll (o : Operation) (final : Bool) (draws : Nat → Draw) (m : Meanwhile) : Operation :=
  let p := Crowd.backend.poll o.config draws ⟨o.past, m.switches, m.visits⟩
  { o with
    loop := o.loop.polled final
    past := p.state.past
    acts := o.acts ++ [.polled p.result] }

/-- What the loop does next, if it has not to wait for something. -/
def turn (o : Operation) (tickFirst : Bool) (draws : Nat → Draw) (m : Meanwhile) : Operation :=
  match o.loop.phase with
  | .polling final => o.poll final draws m
  | _ =>
    match o.loop.turn o.now tickFirst with
    | none => o
    | some loop => { o with loop, acts := o.acts ++ [o.loop.actTo loop] }

/-- Signals come, and time passes. No turn looks at the flag or the clock once it has begun, so what
comes while it lasts may as well come at its end (`signals_polled`). -/
def meanwhile (o : Operation) (signals : List Signal) (ms : Nat) : Operation :=
  { o with loop := signals.foldl Loop.signal o.loop, now := o.now + ms }

/-- What is done when something happens. -/
def act (o : Operation) : Happening → Operation
  | .others deeds => { o with past := o.past ++ visit deeds }
  | .turn tickFirst draws m => o.turn tickFirst draws m
  | .signal _ | .wait _ => o

/-- One thing that happens. -/
def next (o : Operation) (x : Happening) : Operation := (o.act x).meanwhile x.signals x.ms

/-- One thing after another. -/
def run (config : ConsumerConfig) (flag : Bool) (hs : List Happening) : Operation :=
  hs.foldl next (start config flag)

/-! ### What a turn can be -/

variable {o o' : Operation} {draws : Nat → Draw} {m : Meanwhile}

/-- **What one turn can be.** -/
inductive Turned (o : Operation) (draws : Nat → Draw) (m : Meanwhile) : Operation → Prop
  | looked (h : o.loop.phase = .ready) : Turned o draws m { o with
      loop := { o.loop with phase := if o.loop.flag then .polling true else .waiting }
      acts := o.acts ++ [.looked o.loop.flag] }
  | ticked (h : o.loop.phase = .waiting) (hdue : o.loop.due ≤ o.now) : Turned o draws m { o with
      loop := o.loop.takeTick o.now
      acts := o.acts ++ [.ticked] }
  | heard (h : o.loop.phase = .waiting) (hc : o.loop.changed = true) : Turned o draws m { o with
      loop := { o.loop with
        changed := false
        phase := if o.loop.flag then .polling true else .ready }
      acts := o.acts ++ [.heard o.loop.flag] }
  | gone (h : o.loop.phase = .waiting) (hc : o.loop.changed = false) (ha : o.loop.alive = false) :
      Turned o draws m { o with
        loop := { o.loop with phase := .polling true }
        acts := o.acts ++ [.gone] }
  | polled (final : Bool) (h : o.loop.phase = .polling final) :
      Turned o draws m (o.poll final draws m)
  | waiting (h : o.loop.phase = .waiting) (hs : o.loop.hasSignal = false)
      (hdue : o.now < o.loop.due) : Turned o draws m o
  | finished (h : o.loop.phase = .stopped ∨ ∃ final, o.loop.phase = .queued final) :
      Turned o draws m o

theorem turn_cases (o : Operation) (tickFirst : Bool) (draws : Nat → Draw) (m : Meanwhile) :
    Turned o draws m (o.turn tickFirst draws m) := by
  cases hphase : o.loop.phase with
  | ready =>
    have hturn : o.turn tickFirst draws m = { o with
        loop := { o.loop with phase := if o.loop.flag then .polling true else .waiting }
        acts := o.acts ++ [.looked o.loop.flag] } := by
      simp [turn, hphase, Loop.turn, Loop.actTo]
    rw [hturn]
    exact .looked hphase
  | waiting =>
    -- a tick that is due goes first if it is chosen, or if there is no signal to choose
    by_cases htick : (o.loop.due ≤ o.now && (tickFirst || !o.loop.hasSignal)) = true
    · have hturn : o.turn tickFirst draws m =
          { o with loop := o.loop.takeTick o.now, acts := o.acts ++ [.ticked] } := by
        simp [turn, hphase, Loop.turn, htick, Loop.actTo, Loop.takeTick]
      rw [hturn]
      simp only [Bool.and_eq_true, decide_eq_true_eq] at htick
      exact .ticked hphase htick.1
    · have hloop : o.loop.turn o.now tickFirst =
          if o.loop.hasSignal then some o.loop.takeSignal else none := by
        simp only [Loop.turn, hphase]
        rw [if_neg htick]
      -- what was sent is heard before it is noticed that the sender is gone
      cases hc : o.loop.changed with
      | true =>
        have hsignal : o.loop.hasSignal = true := by simp [Loop.hasSignal, hc]
        have htake : o.loop.takeSignal = { o.loop with
            changed := false
            phase := if o.loop.flag then .polling true else .ready } := by
          simp [Loop.takeSignal, hc]
        have hact : o.loop.actTo o.loop.takeSignal = .heard o.loop.flag := by
          cases hf : o.loop.flag <;> simp [Loop.actTo, htake, hphase, hc, hf]
        have hturn : o.turn tickFirst draws m = { o with
            loop := o.loop.takeSignal, acts := o.acts ++ [.heard o.loop.flag] } := by
          simp [turn, hphase, hloop, hsignal, hact]
        rw [hturn, htake]
        exact .heard hphase hc
      | false =>
        cases ha : o.loop.alive with
        | true =>
          have hsignal : o.loop.hasSignal = false := by simp [Loop.hasSignal, hc, ha]
          have hturn : o.turn tickFirst draws m = o := by
            simp [turn, hphase, hloop, hsignal]
          rw [hturn]
          refine .waiting hphase hsignal ?_
          simpa [hsignal] using htick
        | false =>
          have hsignal : o.loop.hasSignal = true := by simp [Loop.hasSignal, ha]
          have hturn : o.turn tickFirst draws m = { o with
              loop := { o.loop with phase := .polling true }
              acts := o.acts ++ [.gone] } := by
            simp [turn, hphase, hloop, hsignal, Loop.takeSignal, Loop.actTo, hc]
          rw [hturn]
          exact .gone hphase hc ha
  | polling final =>
    have hturn : o.turn tickFirst draws m = o.poll final draws m := by simp [turn, hphase]
    rw [hturn]
    exact .polled final hphase
  | queued final =>
    have hturn : o.turn tickFirst draws m = o := by simp [turn, hphase, Loop.turn]
    rw [hturn]
    exact .finished (.inr ⟨final, hphase⟩)
  | stopped =>
    have hturn : o.turn tickFirst draws m = o := by simp [turn, hphase, Loop.turn]
    rw [hturn]
    exact .finished (.inl hphase)

/-! ### Signals -/

/-- Signals leave a loop where it stands. -/
theorem signals_phase (xs : List Signal) (l : Loop) :
    (xs.foldl Loop.signal l).phase = l.phase := by
  induction xs generalizing l with
  | nil => rfl
  | cons x xs ih =>
    refine (ih (l.signal x)).trans ?_
    cases x with
    | send value =>
      simp only [Loop.signal]
      split <;> rfl
    | dropSender => rfl

/-- Signals leave the ticks as they are. -/
theorem signals_ticks (xs : List Signal) (l : Loop) :
    (xs.foldl Loop.signal l).due = l.due ∧ (xs.foldl Loop.signal l).period = l.period := by
  induction xs generalizing l with
  | nil => exact ⟨rfl, rfl⟩
  | cons x xs ih =>
    obtain ⟨hdue, hperiod⟩ := ih (l.signal x)
    have hsame : (l.signal x).due = l.due ∧ (l.signal x).period = l.period := by
      cases x with
      | send value =>
        simp only [Loop.signal]
        split <;> exact ⟨rfl, rfl⟩
      | dropSender => exact ⟨rfl, rfl⟩
    exact ⟨hdue.trans hsame.1, hperiod.trans hsame.2⟩

/-- A flag that is newly set has not been noticed. -/
theorem signals_set {xs : List Signal} {l : Loop} (h : l.flag = true → l.changed = true)
    (hf : (xs.foldl Loop.signal l).flag = true) : (xs.foldl Loop.signal l).changed = true := by
  induction xs generalizing l with
  | nil => exact h hf
  | cons x xs ih =>
    refine ih ?_ hf
    cases x with
    | dropSender => exact h
    | send value =>
      simp only [Loop.signal]
      split
      · exact fun _ => rfl
      · exact h

/-- After the sender is gone nothing is sent. -/
theorem signals_dead {l : Loop} (h : l.alive = false) (xs : List Signal) :
    xs.foldl Loop.signal l = l := by
  induction xs with
  | nil => rfl
  | cons x xs ih =>
    have hsame : l.signal x = l := by
      cases x with
      | send value => simp [Loop.signal, h]
      | dropSender => simp [Loop.signal, ← h]
    rw [List.foldl_cons, hsame, ih]

/-- Signals that come while a poll is under way may as well come at its end. -/
theorem signals_polled (xs : List Signal) (l : Loop) (final : Bool) :
    (xs.foldl Loop.signal l).polled final = xs.foldl Loop.signal (l.polled final) := by
  induction xs generalizing l with
  | nil => rfl
  | cons x xs ih =>
    refine (ih (l.signal x)).trans (congrArg (xs.foldl Loop.signal) ?_)
    cases x with
    | send value =>
      simp only [Loop.signal]
      cases ha : l.alive <;> simp [Loop.polled, ha]
    | dropSender => rfl

/-- The flag stays as it is unless the other one is sent. -/
theorem signals_flag {value : Bool} {xs : List Signal} {l : Loop} (hl : l.flag = value)
    (hxs : .send (!value) ∉ xs) : (xs.foldl Loop.signal l).flag = value := by
  induction xs generalizing l with
  | nil => exact hl
  | cons x xs ih =>
    refine ih ?_ fun hx => hxs (List.mem_cons_of_mem _ hx)
    cases x with
    | send sent =>
      have hsent : sent = value := Decidable.byContradiction fun hne =>
        hxs (Bool.eq_not.mpr hne ▸ List.mem_cons_self)
      simp only [Loop.signal]
      split
      · exact hsent
      · exact hl
    | dropSender => exact hl

theorem signals_alive {xs : List Signal} (hxs : .dropSender ∉ xs) {l : Loop} (h : l.alive = true) :
    (xs.foldl Loop.signal l).alive = true := by
  induction xs generalizing l with
  | nil => exact h
  | cons x xs ih =>
    refine ih (fun hx => hxs (List.mem_cons_of_mem _ hx)) ?_
    cases x with
    | send value => simp [Loop.signal, h]
    | dropSender => exact absurd List.mem_cons_self hxs

/-- While the sender is there the flag is what was sent last. -/
theorem signals_last {xs : List Signal} {value : Bool} (hlast : xs.getLast? = some (.send value))
    (hxs : .dropSender ∉ xs) {l : Loop} (h : l.alive = true) :
    (xs.foldl Loop.signal l).flag = value := by
  obtain ⟨before, rfl⟩ := List.getLast?_eq_some_iff.mp hlast
  have halive : (before.foldl Loop.signal l).alive = true :=
    signals_alive (fun hx => hxs (List.mem_append_left _ hx)) h
  rw [List.foldl_append, List.foldl_cons, List.foldl_nil]
  simp [Loop.signal, halive]

theorem signals_gone {xs : List Signal} (hgone : .dropSender ∈ xs) (l : Loop) :
    (xs.foldl Loop.signal l).alive = false := by
  obtain ⟨before, later, rfl⟩ := List.append_of_mem hgone
  rw [List.foldl_append, List.foldl_cons, signals_dead rfl]
  rfl

/-! ### What the loop has done -/

/-- One round of the loop. -/
inductive Round : List Act → Prop
  | heard : Round [.looked false, .heard false]
  | polled (r : Except ProvisioningError Report) : Round [.looked false, .ticked, .polled r]

/-- How the loop notices a request to shut down: the flag is set, or its sender is gone. -/
inductive Request : List Act → Prop
  | looked : Request [.looked true]
  | heard : Request [.looked false, .heard true]
  | gone : Request [.looked false, .gone]

/-- What the loop has done since its last whole round, by where it stands. -/
inductive Tail : Phase → List Act → Prop
  | ready : Tail .ready []
  | waiting : Tail .waiting [.looked false]
  | polling : Tail (.polling false) [.looked false, .ticked]
  | closing {tail : List Act} (h : Request tail) : Tail (.polling true) tail
  | stopped {tail : List Act} (h : Request tail) (r : Except ProvisioningError Report) :
    Tail .stopped (tail ++ [.polled r])

/-- Whole rounds and the beginning of one more. -/
def Rounds (phase : Phase) (acts : List Act) : Prop :=
  ∃ rounds tail, acts = List.flatten rounds ++ tail ∧ (∀ r ∈ rounds, Round r) ∧ Tail phase tail

theorem Rounds.extend {phase phase' : Phase} {acts more : List Act} (h : Rounds phase acts)
    (hmore : ∀ tail, Tail phase tail → Tail phase' (tail ++ more)) :
    Rounds phase' (acts ++ more) := by
  obtain ⟨rounds, tail, rfl, hrounds, htail⟩ := h
  exact ⟨rounds, tail ++ more, List.append_assoc _ _ _, hrounds, hmore tail htail⟩

/-- The loop is back at the beginning of a round. -/
theorem Rounds.close {phase : Phase} {acts more : List Act} (h : Rounds phase acts)
    (hmore : ∀ tail, Tail phase tail → Round (tail ++ more)) : Rounds .ready (acts ++ more) := by
  obtain ⟨rounds, tail, rfl, hrounds, htail⟩ := h
  refine ⟨rounds ++ [tail ++ more], [], by simp, ?_, .ready⟩
  intro r hr
  rcases List.mem_append.mp hr with hr | hr
  · exact hrounds r hr
  · rw [List.mem_singleton.mp hr]
    exact hmore tail htail

/-- **What holds of a loop at work.** -/
structure Told (o : Operation) : Prop where
  rounds : Rounds o.loop.phase o.acts
  /-- While the loop waits it has not noticed that the flag is set. -/
  unnoticed : o.loop.phase = .waiting → o.loop.flag = true → o.loop.changed = true
  free : o.store.transaction = none

theorem Told.start (config : ConsumerConfig) (flag : Bool) : Told (.start config flag) where
  rounds := ⟨[], [], rfl, by simp, .ready⟩
  unnoticed h := by cases h
  free := rfl

theorem Told.poll (h : o.Told) {final : Bool} (hphase : o.loop.phase = .polling final) :
    (o.poll final draws m).Told := by
  have hfree : (o.poll final draws m).store.transaction = none :=
    Crowd.poll_free (c := ⟨o.past, m.switches, m.visits⟩) o.config draws h.free
  have hrounds := h.rounds
  rw [hphase] at hrounds
  cases final with
  | false =>
    -- the poll completes a round
    refine ⟨hrounds.close ?_, fun hw => (by cases hw), hfree⟩
    rintro tail ⟨⟩
    exact .polled _
  | true =>
    refine ⟨hrounds.extend ?_, fun hw => (by cases hw), hfree⟩
    intro tail htail
    cases htail with
    | closing hrequest => exact .stopped hrequest _

theorem Told.turned (h : o.Told) (ht : Turned o draws m o') : o'.Told := by
  have hrounds := h.rounds
  cases ht with
  | looked hphase =>
    rw [hphase] at hrounds
    cases hf : o.loop.flag with
    | true =>
      refine ⟨hrounds.extend ?_, fun hw => (by simp at hw), h.free⟩
      rintro tail ⟨⟩
      exact .closing .looked
    | false =>
      refine ⟨hrounds.extend ?_, fun _ hset => (by simp [hf] at hset), h.free⟩
      rintro tail ⟨⟩
      exact .waiting
  | ticked hphase hdue =>
    rw [hphase] at hrounds
    refine ⟨hrounds.extend ?_, fun hw => (by cases hw), h.free⟩
    rintro tail ⟨⟩
    exact .polling
  | heard hphase hc =>
    rw [hphase] at hrounds
    cases hf : o.loop.flag with
    | true =>
      refine ⟨hrounds.extend ?_, fun hw => (by simp at hw), h.free⟩
      rintro tail ⟨⟩
      exact .closing .heard
    | false =>
      refine ⟨hrounds.close ?_, fun hw => (by simp at hw), h.free⟩
      rintro tail ⟨⟩
      exact .heard
  | gone hphase hc ha =>
    rw [hphase] at hrounds
    refine ⟨hrounds.extend ?_, fun hw => (by cases hw), h.free⟩
    rintro tail ⟨⟩
    exact .closing .gone
  | polled final hphase => exact h.poll hphase
  | waiting hphase hs hdue => exact h
  | finished hphase => exact h

theorem Told.meanwhile (h : o.Told) (xs : List Signal) (ms : Nat) : (o.meanwhile xs ms).Told := by
  have hphase := signals_phase xs o.loop
  have hrounds := h.rounds
  rw [← hphase] at hrounds
  refine ⟨hrounds, ?_, h.free⟩
  intro hw
  exact signals_set (h.unnoticed (hphase ▸ hw))

theorem Told.act (h : o.Told) (x : Happening) : (o.act x).Told := by
  cases x with
  | others deeds => exact ⟨h.rounds, h.unnoticed, Crowd.visit_free o.past deeds⟩
  | signal x => exact h
  | wait ms => exact h
  | turn tickFirst draws m => exact h.turned (o.turn_cases tickFirst draws m)

/-- **One thing that happens** leaves it so. -/
theorem Told.next (h : o.Told) (x : Happening) : (o.next x).Told :=
  (h.act x).meanwhile x.signals x.ms

theorem Told.run (config : ConsumerConfig) (flag : Bool) (hs : List Happening) :
    (Operation.run config flag hs).Told := by
  induction hs using List.reverseRecOn with
  | nil => exact .start config flag
  | append_singleton hs x ih =>
    rw [Operation.run, List.foldl_append]
    exact ih.next x

theorem Told.not_queued (h : o.Told) {final : Bool} : o.loop.phase ≠ .queued final := by
  intro hq
  obtain ⟨rounds, tail, -, -, htail⟩ := h.rounds
  rw [hq] at htail
  cases htail

end Operation

/-! ### The loop with nobody around -/

/-- A running loop is where an operation is. -/
structure Running.Shows (r : Running) (o : Operation) : Prop where
  config : o.config = r.config
  loop : o.loop = r.loop
  store : o.store = r.script.store
  now : o.now = r.now

namespace Running

variable {r r' : Running} {o : Operation}

theorem Shows.poll (h : r.Shows o) (hfree : o.store.transaction = none) (final : Bool) :
    (r.poll final).Shows (o.poll final r.script.nextDraws .nothing) := by
  have hopen : r.script.store.isOpen = false := by
    rw [← h.store, Store.isOpen, hfree]
    rfl
  have hstate : (r.poll final).script.store =
      (Store.backend.poll r.config r.script.nextDraws r.script.store).state := by
    simp [Running.poll, hopen, afterPoll, note, Script.afterPoll]
  have hpoll := Crowd.poll_alone o.config r.script.nextDraws o.past
  refine ⟨?_, ?_, ?_, ?_⟩
  · simpa [Running.poll, hopen, afterPoll, note, Operation.poll] using h.config
  · simp [Running.poll, hopen, afterPoll, note, Operation.poll, h.loop]
  · rw [hstate, ← h.store, ← h.config]
    exact (congrArg Polled.state hpoll).symm
  · simpa [Running.poll, hopen, afterPoll, note, Operation.poll] using h.now

/-- A turn of the running loop is one of the operation. -/
theorem Shows.turn (h : r.Shows o) (htold : o.Told) (ht : r.turn = some r') :
    r'.Shows (o.turn false r.script.nextDraws .nothing) := by
  have hloop : ∀ {l : Loop}, (∀ final, o.loop.phase ≠ .polling final) →
      o.loop.turn r.now false = some l →
      ({ r with loop := l } : Running).Shows (o.turn false r.script.nextDraws .nothing) := by
    intro l hpolling hl
    have hturn : o.turn false r.script.nextDraws .nothing =
        { o with loop := l, acts := o.acts ++ [o.loop.actTo l] } := by
      unfold Operation.turn
      split
      · exact absurd ‹_› (hpolling _)
      · simp [h.now, hl]
    rw [hturn]
    exact ⟨h.config, rfl, h.store, h.now⟩
  rw [Running.turn, ← h.loop] at ht
  cases hphase : o.loop.phase with
  | polling final =>
    simp only [hphase, Option.some.injEq] at ht
    have hturn : o.turn false r.script.nextDraws .nothing =
        o.poll final r.script.nextDraws .nothing := by simp [Operation.turn, hphase]
    rw [hturn, ← ht]
    exact h.poll htold.free final
  | queued final => exact absurd hphase htold.not_queued
  -- all other turns leave the store alone
  | _ =>
    simp only [hphase, Option.map_eq_some_iff] at ht
    obtain ⟨l, hl, rfl⟩ := ht
    exact hloop (by simp [hphase]) hl

/-- **All that the running loop does at a moment** is turns of the operation, with nothing else
happening. -/
theorem settle_turns (h : r.Shows o) (htold : o.Told) : ∃ hs : List Happening,
    (∀ x ∈ hs, x.isTurn = true ∧ x.signals = [] ∧ x.ms = 0) ∧
      r.settle.Shows (hs.foldl Operation.next o) := by
  fun_induction settle r generalizing o with
  | case1 r hnone => exact ⟨[], by simp, h⟩
  | case2 r r' hturn _ ih =>
    let x : Happening := .turn false r.script.nextDraws .nothing
    have hnext : r'.Shows (o.next x) := h.turn htold hturn
    obtain ⟨hs, hturns, hshows⟩ := ih hnext (htold.next x)
    refine ⟨x :: hs, ?_, hshows⟩
    intro y hy
    rcases List.mem_cons.mp hy with rfl | hy
    · exact ⟨rfl, rfl, rfl⟩
    · exact hturns y hy

end Running

end OutboxProvisioning
