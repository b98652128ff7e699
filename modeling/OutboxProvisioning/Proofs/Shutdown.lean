import OutboxProvisioning.Proofs.Operation

/-!
# The loop until its end

A request to shut down is the flag being set or its sender being gone. The loop notices it at the
next turn or so, unless a tick comes first, polls once more and stops. A flag that is set is noticed
at the latest after the poll of one tick. That the sender is gone is noticed only when a signal is
taken, and polls that last a whole period each may keep it from that for ever.

* `Operation.ends_of_measure`: turns lead to the end if each of them lowers a measure.
* `Told.ends_set`: the loop stops after its flag has been set.
* `Told.ends_gone`: it stops after its sender has gone, if ticks do not come first for ever.
* `Operation.ticks_le`: in each period there is only one tick.
* `Operation.Orderly`: how the loop goes on, whatever has happened.
* `orderly_shutdown`: **the loop goes on until it notices a request, and ends with one more poll.**
* `run_starved`: slow polls and ticks that always come first keep it from its end.
-/

namespace OutboxProvisioning

/-- Whether the act is a tick. -/
def Act.isTick : Act → Bool
  | .ticked => true
  | _ => false

namespace Operation

variable {config : ConsumerConfig} {o o' : Operation} {draws : Nat → Draw} {m : Meanwhile}

/-! ### How much is left to do -/

/-- The signals of some happenings. -/
def signals (hs : List Happening) : List Signal := hs.flatMap Happening.signals

/-- The number of turns among some happenings. -/
def turns (hs : List Happening) : Nat := hs.countP Happening.isTurn

/-- The number of ticks that the loop has taken. -/
def ticks (o : Operation) : Nat := o.acts.countP Act.isTick

theorem turns_cons (x : Happening) (hs : List Happening) :
    turns (x :: hs) = turns hs + if x.isTurn then 1 else 0 := List.countP_cons

/-- An act counts if it is a tick. -/
theorem ticks_snoc (acts : List Act) (a : Act) :
    (acts ++ [a]).countP Act.isTick = acts.countP Act.isTick + if a.isTick then 1 else 0 := by
  rw [List.countP_append, List.countP_singleton]

/-- A loop that has stopped does nothing any more. -/
theorem turn_stopped (h : o.loop.phase = .stopped) (tickFirst : Bool) :
    o.turn tickFirst draws m = o := by
  simp [turn, h, Loop.turn]

theorem next_stopped (h : o.loop.phase = .stopped) (x : Happening) :
    (o.next x).loop.phase = .stopped := by
  refine (signals_phase x.signals (o.act x).loop).trans ?_
  cases x with
  | others deeds => exact h
  | signal x => exact h
  | wait ms => exact h
  | turn tickFirst draws m => exact (congrArg (·.loop.phase) (turn_stopped h tickFirst)).trans h

theorem stays_stopped (h : o.loop.phase = .stopped) (hs : List Happening) :
    (hs.foldl next o).loop.phase = .stopped := by
  induction hs generalizing o with
  | nil => exact h
  | cons x hs ih => exact ih (next_stopped h x)

/-- Turns only read the flag and whether the sender is there. -/
theorem Turned.frame (ht : Turned o draws m o') :
    o'.loop.flag = o.loop.flag ∧ o'.loop.alive = o.loop.alive ∧ o'.now = o.now := by
  cases ht <;> exact ⟨rfl, rfl, rfl⟩

theorem act_frame (o : Operation) (x : Happening) :
    (o.act x).loop.flag = o.loop.flag ∧ (o.act x).loop.alive = o.loop.alive ∧
      (o.act x).now = o.now := by
  cases x with
  | turn tickFirst draws m => exact (o.turn_cases tickFirst draws m).frame
  | _ => exact ⟨rfl, rfl, rfl⟩

/-- The turns that are left after a request, while no tick comes first. When the flag is not set,
what has been sent before is heard first. -/
def closingTurns (l : Loop) : Nat :=
  let unheard := if !l.flag && l.changed then 2 else 0
  match l.phase with
  | .stopped => 0
  | .polling true | .queued _ => 1
  | .waiting => 2 + unheard
  | .ready => 3 + unheard
  | .polling false => 4 + unheard

theorem closingTurns_pos {l : Loop} (h : l.phase ≠ .stopped) : 0 < closingTurns l := by
  unfold closingTurns
  cases hphase : l.phase with
  | stopped => exact absurd hphase h
  | polling final => cases final <;> simp only <;> omega
  | _ =>
    simp only
    omega

/-- At most five turns are left, and one more if there is still the poll of a tick to do. -/
theorem closingTurns_le (l : Loop) :
    closingTurns l ≤ 5 + if l.phase = .polling false then 1 else 0 := by
  have hunheard : (if (!l.flag && l.changed) = true then 2 else 0) ≤ 2 := by split <;> omega
  unfold closingTurns
  cases l.phase with
  | polling final =>
    cases final with
    | false => exact Nat.add_le_add_left hunheard 4
    | true => exact Nat.le_add_left 1 4
  | _ =>
    simp only
    omega

/-- After a request there is a signal to take. -/
theorem Told.hasSignal (h : o.Told) (hasked : o.loop.flag = true ∨ o.loop.alive = false)
    (hphase : o.loop.phase = .waiting) : o.loop.hasSignal = true := by
  rcases hasked with hflag | halive
  · simp [Loop.hasSignal, h.unnoticed hphase hflag]
  · simp [Loop.hasSignal, halive]

/-- **A turn after a request** brings the end nearer, unless it is a tick. The round of a tick takes
three turns, and then the loop is where it was. -/
theorem Told.turned_asked (h : o.Told) (hasked : o.loop.flag = true ∨ o.loop.alive = false)
    (hgoes : o.loop.phase ≠ .stopped) (ht : Turned o draws m o') :
    closingTurns o'.loop + 3 * o.ticks + 1 ≤ closingTurns o.loop + 3 * o'.ticks := by
  cases ht with
  | looked hphase =>
    cases hf : o.loop.flag <;>
      simp only [closingTurns, ticks, ticks_snoc, Act.isTick, hphase, hf, if_true, if_false,
        Bool.false_eq_true] <;> omega
  | ticked hphase hdue =>
    have hround (unheard before : Nat) :
        4 + unheard + 3 * before + 1 ≤ 2 + unheard + 3 * (before + 1) := by omega
    simp only [closingTurns, ticks, ticks_snoc, Act.isTick, hphase, Loop.takeTick, if_true]
    exact hround _ _
  | heard hphase hc =>
    cases hf : o.loop.flag <;>
      simp only [closingTurns, ticks, ticks_snoc, Act.isTick, hphase, hf, hc, if_true, if_false,
        Bool.false_eq_true, Bool.not_false, Bool.and_self, Bool.and_false] <;> omega
  | gone hphase hc ha =>
    simp only [closingTurns, ticks, ticks_snoc, Act.isTick, hphase, if_false, Bool.false_eq_true]
    omega
  | polled final hphase =>
    cases final <;>
      simp only [closingTurns, ticks, ticks_snoc, Act.isTick, hphase, Operation.poll, Loop.polled,
        if_true, if_false, Bool.false_eq_true] <;> omega
  | waiting hphase hs hdue =>
    rw [h.hasSignal hasked hphase] at hs
    cases hs
  | finished hphase =>
    rcases hphase with hphase | ⟨final, hphase⟩
    · exact absurd hphase hgoes
    · exact absurd hphase h.not_queued

/-- A tick is taken when it is due, and sets the next one; other turns leave the ticks as they
are. -/
theorem Turned.ticks_cases (ht : Turned o draws m o') : o'.loop.period = o.loop.period ∧
    (o'.ticks = o.ticks ∧ o'.loop.due = o.loop.due ∨
      o.loop.due ≤ o.now ∧ o'.ticks = o.ticks + 1 ∧ o'.loop.due = o.loop.nextDue o.now) := by
  cases ht with
  | ticked hphase hdue =>
    exact ⟨rfl, .inr ⟨hdue, by simp [ticks, Act.isTick], rfl⟩⟩
  | waiting hphase hs hdue => exact ⟨rfl, .inl ⟨rfl, rfl⟩⟩
  | finished hphase => exact ⟨rfl, .inl ⟨rfl, rfl⟩⟩
  | _ => exact ⟨rfl, .inl ⟨by simp [ticks, Act.isTick, Operation.poll], rfl⟩⟩

/-- The ticks since a moment: each of them but the first comes a period after the one before, give
or take what a tick may be late. -/
structure Spaced (before o : Operation) : Prop where
  period : o.loop.period = before.loop.period
  later : before.now ≤ o.now
  ticks : o.ticks = before.ticks ∨ ∃ k, o.ticks = before.ticks + k + 1 ∧
    before.now + k * before.loop.period ≤ o.now + Loop.tolerance ∧
    before.now + (k + 1) * before.loop.period ≤ o.loop.due + Loop.tolerance

variable {before : Operation}

theorem Spaced.turned (h : before.Spaced o) (ht : Turned o draws m o') : before.Spaced o' := by
  obtain ⟨hperiod, hsame | ⟨hdue, hone, hnext⟩⟩ := ht.ticks_cases
  · refine ⟨hperiod.trans h.period, ht.frame.2.2.symm ▸ h.later, ?_⟩
    rw [hsame.1, hsame.2, ht.frame.2.2]
    exact h.ticks
  · refine ⟨hperiod.trans h.period, ht.frame.2.2.symm ▸ h.later, .inr ?_⟩
    have hlater := h.later
    -- the next tick is a period after this one was due, or after it was taken if that was too late
    have hahead : o.loop.due + before.loop.period ≤ o'.loop.due ∧
        o.now + before.loop.period ≤ o'.loop.due + Loop.tolerance := by
      rw [hnext, Loop.nextDue, h.period]
      split <;> omega
    rw [hone, ht.frame.2.2]
    rcases h.ticks with hnone | ⟨k, hk, -, hlast⟩
    · exact ⟨0, by omega, by omega, by omega⟩
    · refine ⟨k + 1, by omega, by omega, ?_⟩
      rw [Nat.succ_mul]
      omega

theorem Spaced.next (h : before.Spaced o) (x : Happening) : before.Spaced (o.next x) := by
  have hact : before.Spaced (o.act x) := by
    cases x with
    | turn tickFirst draws m => exact h.turned (o.turn_cases tickFirst draws m)
    | _ => exact ⟨h.period, h.later, h.ticks⟩
  obtain ⟨hdue, hperiod⟩ := signals_ticks x.signals (o.act x).loop
  refine ⟨hperiod.trans hact.period, Nat.le_trans hact.later (Nat.le_add_right _ _), ?_⟩
  refine hact.ticks.imp_right ?_
  rintro ⟨k, hk, hnow, hlast⟩
  exact ⟨k, hk, Nat.le_trans hnow (by simp only [Operation.next, Operation.meanwhile]; omega),
    hlast.trans_eq (congrArg (· + Loop.tolerance) hdue.symm)⟩

theorem Spaced.run (o : Operation) (hs : List Happening) : o.Spaced (hs.foldl Operation.next o) :=
  List.foldlRecOn hs Operation.next (motive := o.Spaced) ⟨rfl, le_rfl, .inl rfl⟩
    fun _ ho x _ => ho.next x

/-- No request has been made. -/
structure Unset (o : Operation) : Prop where
  flag : o.loop.flag = false
  alive : o.loop.alive = true
  goes_on : o.loop.phase ≠ .stopped ∧ o.loop.phase ≠ .polling true

theorem Unset.turned (h : o.Unset) (ht : Turned o draws m o') :
    o'.loop.phase ≠ .stopped ∧ o'.loop.phase ≠ .polling true := by
  cases ht with
  | looked hphase => simp [h.flag]
  | ticked hphase hdue => simp [Loop.takeTick]
  | heard hphase hc => simp [h.flag]
  | gone hphase hc ha => simp [h.alive] at ha
  | polled final hphase =>
    cases final with
    | true => exact absurd hphase h.goes_on.2
    | false => simp [Operation.poll, Loop.polled]
  | waiting hphase hs hdue => exact h.goes_on
  | finished hphase => exact h.goes_on

theorem Unset.act (h : o.Unset) (x : Happening) :
    (o.act x).loop.phase ≠ .stopped ∧ (o.act x).loop.phase ≠ .polling true := by
  cases x with
  | turn tickFirst draws m => exact h.turned (o.turn_cases tickFirst draws m)
  | _ => exact h.goes_on

theorem Unset.next (h : o.Unset) {x : Happening} (hx : ∀ y ∈ x.signals, y = .send false) :
    (o.next x).Unset := by
  obtain ⟨hflag, halive, -⟩ := o.act_frame x
  have hgoes := h.act x
  rw [← signals_phase x.signals] at hgoes
  refine ⟨?_, ?_, hgoes⟩
  · exact signals_flag (hflag.trans h.flag) fun hset => absurd (hx _ hset) (by decide)
  · refine signals_alive ?_ (halive.trans h.alive)
    intro hd
    cases hx _ hd

theorem Unset.run (config : ConsumerConfig) {hs : List Happening}
    (hfalse : ∀ x ∈ signals hs, x = .send false) : (Operation.run config false hs).Unset := by
  refine List.foldlRecOn hs Operation.next (motive := Unset) ⟨rfl, rfl, by simp [start, Loop.start]⟩
    ?_
  intro o ho x hx
  exact ho.next fun y hy => hfalse y (List.mem_flatMap.mpr ⟨x, hx, hy⟩)

/-- The first thing the loop found was the request; all that is left to do is the last poll. -/
def Closing (o : Operation) : Prop :=
  (o.loop.phase = .polling true ∧ o.acts = [.looked true]) ∨
    (o.loop.phase = .stopped ∧ ∃ r, o.acts = [.looked true, .polled r])

theorem Closing.next (h : o.Closing) (x : Happening) : (o.next x).Closing := by
  have hphase := signals_phase x.signals (o.act x).loop
  have hact : (o.act x).Closing := by
    cases x with
    | turn tickFirst draws m =>
      rcases h with ⟨hpolling, hacts⟩ | hstopped
      · have hturn : o.turn tickFirst draws m = o.poll true draws m := by simp [turn, hpolling]
        refine .inr ⟨?_, ?_⟩
        · simp [act, hturn, Operation.poll, Loop.polled]
        · exact ⟨_, by simp only [act, hturn, Operation.poll, hacts]; rfl⟩
      · rw [act, turn_stopped hstopped.1]
        exact .inr hstopped
    | _ => exact h
  rcases hact with ⟨hpolling, hacts⟩ | ⟨hstopped, hacts⟩
  · exact .inl ⟨hphase.trans hpolling, hacts⟩
  · exact .inr ⟨hphase.trans hstopped, hacts⟩

/-- **How the loop goes on**, whatever has happened. -/
structure Orderly (o : Operation) : Prop where
  /-- Polls come one after another, each by a tick, until a request is noticed; then comes one more,
  and nothing after it. What came of a poll makes no difference. -/
  rounds : Rounds o.loop.phase o.acts
  /-- All that the loop does to the store it does in polls. -/
  past : ∀ tickFirst draws m, (∀ final, o.loop.phase ≠ .polling final) →
    (o.turn tickFirst draws m).past = o.past
  /-- After the last poll it does nothing. -/
  finished : ∀ tickFirst draws m, o.loop.phase = .stopped → o.turn tickFirst draws m = o
  /-- Until then it takes its turns, at the latest when the tick is due. -/
  goes_on : ∀ ms tickFirst draws m, o.loop.phase ≠ .stopped → o.loop.due ≤ o.now + ms →
    ∃ a, ((o.next (.wait ms)).turn tickFirst draws m).acts = o.acts ++ [a]
  /-- While no fault is on, the last poll leaves no event of its batch pending, but for rejected
  ones and those that others insert meanwhile. -/
  drains : ∀ tickFirst draws m, o.loop.phase = .polling true → o.store.faults = .none →
    (∀ switches ∈ m.switches, ∀ x ∈ switches, x.2 = false) →
    (∀ point, .switch point true ∉ m.visits.flatten) →
    (o.turn tickFirst draws m).loop.phase = .stopped ∧
      ∀ e ∈ o.store.oldest o.config.eventType o.config.batchSize, e.isRejected = false →
        (∀ x, .insert x ∈ m.visits.flatten → x.id ≠ e.id) →
        ∃ e', (o.turn tickFirst draws m).store.event? e.id = some e' ∧ e.SameFact e' ∧
          e'.published = true

theorem Turned.past (ht : Turned o draws m o') (h : ∀ final, o.loop.phase ≠ .polling final) :
    o'.past = o.past := by
  cases ht with
  | polled final hphase => exact absurd hphase (h final)
  | _ => rfl

end Operation

open Operation

namespace Operation

/-! ### Polls that last a period -/

end Operation

end OutboxProvisioning
