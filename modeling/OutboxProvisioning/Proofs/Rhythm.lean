import OutboxProvisioning.Proofs.Shutdown

/-!
# When the loop polls

Suppose that all work is done at once and that ticks come when they are due: time passes only while
the loop has nothing to do, and not beyond its next tick. Then the ticks keep their rhythm, however
often the loop is woken in between by a flag that is sent but not set.

* `Operation.Prompt`: time passes only then.
* `Operation.pollTimes`: when the loop polls.
* `Operation.OnBeat`: the loop in the rhythm of its ticks.
* `Operation.Asked`: the loop after a request that came between two ticks.
* `poll_schedule`: **the loop polls at the multiples of its period until a request comes, and then
  once more, at the time of the request.**
-/

namespace OutboxProvisioning

/-- Whether the act is a poll. -/
def Act.isPoll : Act → Bool
  | .polled _ => true
  | _ => false

/-- Whether a request to shut down comes, and is not taken back at once. -/
def Happening.requests (x : Happening) : Bool := x.signals.getLast?.any (· ≠ .send false)

namespace Operation

variable {config : ConsumerConfig} {o o' : Operation} {draws : Nat → Draw} {m : Meanwhile}
  {x : Happening} {P n s : Nat}

/-- Whether the loop has nothing to do: no turn makes a difference. -/
def Idle (o : Operation) : Prop := ∀ tickFirst draws m, o.turn tickFirst draws m = o

/-- Whether no time passes, or the loop has nothing to do and its next tick is not missed. -/
def InTime (o : Operation) (x : Happening) : Prop :=
  x.ms = 0 ∨ x.isTurn = false ∧ o.Idle ∧ (o.loop.phase = .waiting → o.now + x.ms ≤ o.loop.due)

/-- **All that happens is in time.** -/
def Prompt (o : Operation) : List Happening → Prop
  | [] => True
  | x :: hs => o.InTime x ∧ (o.next x).Prompt hs

/-- The time of a poll, if the loop polls now. -/
def polls (o : Operation) : Happening → List Nat
  | .turn _ _ _ =>
    match o.loop.phase with
    | .polling _ => [o.now]
    | _ => []
  | .others _ | .signal _ | .wait _ => []

/-- **The times of the polls.** -/
def pollTimes (o : Operation) : List Happening → List Nat
  | [] => []
  | x :: hs => o.polls x ++ (o.next x).pollTimes hs

theorem prompt_append {hs more : List Happening} :
    o.Prompt (hs ++ more) ↔ o.Prompt hs ∧ (hs.foldl next o).Prompt more := by
  induction hs generalizing o with
  | nil => simp [Prompt]
  | cons x hs ih => simp only [List.cons_append, Prompt, ih, List.foldl_cons, and_assoc]

theorem pollTimes_append (o : Operation) (hs more : List Happening) :
    o.pollTimes (hs ++ more) = o.pollTimes hs ++ (hs.foldl next o).pollTimes more := by
  induction hs generalizing o with
  | nil => rfl
  | cons x hs ih => simp only [List.cons_append, pollTimes, ih, List.append_assoc, List.foldl_cons]

theorem polls_of_not_polling (h : ∀ final, o.loop.phase ≠ .polling final) (x : Happening) :
    o.polls x = [] := by
  cases x with
  | turn tickFirst draws m =>
    cases hphase : o.loop.phase with
    | polling final => exact absurd hphase (h final)
    | _ => simp only [polls, hphase]
  | _ => rfl

theorem polls_of_polling {final : Bool} (h : o.loop.phase = .polling final) (tickFirst : Bool)
    (draws : Nat → Draw) (m : Meanwhile) : o.polls (.turn tickFirst draws m) = [o.now] := by
  simp only [polls, h]

theorem Turned.acts_polls (ht : Turned o draws m o') (tickFirst : Bool) :
    o'.acts.countP Act.isPoll =
      o.acts.countP Act.isPoll + (o.polls (.turn tickFirst draws m)).length := by
  cases ht with
  | polled final hphase => simp [polls, hphase, Operation.poll, Act.isPoll]
  | finished hphase => rcases hphase with hphase | ⟨final, hphase⟩ <;> simp [polls, hphase]
  | looked hphase => simp [polls, hphase, Act.isPoll]
  | ticked hphase => simp [polls, hphase, Act.isPoll]
  | heard hphase => simp [polls, hphase, Act.isPoll]
  | gone hphase => simp [polls, hphase, Act.isPoll]
  | waiting hphase => simp [polls, hphase]

/-- These are all the polls. -/
theorem acts_polls (o : Operation) (hs : List Happening) :
    (hs.foldl next o).acts.countP Act.isPoll =
      o.acts.countP Act.isPoll + (o.pollTimes hs).length := by
  induction hs generalizing o with
  | nil => rfl
  | cons x hs ih =>
    have hstep : (o.next x).acts.countP Act.isPoll =
        o.acts.countP Act.isPoll + (o.polls x).length := by
      cases x with
      | turn tickFirst draws m => exact (o.turn_cases tickFirst draws m).acts_polls tickFirst
      | _ => rfl
    rw [List.foldl_cons, ih, hstep, pollTimes, List.length_append, Nat.add_assoc]

/-- A loop that has nothing to do has stopped, or waits for a tick that is still to come. -/
theorem Idle.rests (h : o.Idle) (htold : o.Told) : o.loop.phase = .stopped ∨
    o.loop.phase = .waiting ∧ o.loop.hasSignal = false ∧ o.now < o.loop.due := by
  obtain ⟨o', ho'⟩ : ∃ o', o.turn true default .nothing = o' := ⟨_, rfl⟩
  have ht := o.turn_cases true default .nothing
  have hacts : o'.acts = o.acts := by rw [← ho', h]
  rw [ho'] at ht
  cases ht with
  | waiting hphase hs hdue => exact .inr ⟨hphase, hs, hdue⟩
  | finished hphase =>
    rcases hphase with hphase | ⟨final, hphase⟩
    · exact .inl hphase
    · exact absurd hphase htold.not_queued
  | polled final hphase => simp [Operation.poll] at hacts
  | _ => simp at hacts

theorem idle_of_stopped (h : o.loop.phase = .stopped) : o.Idle :=
  fun tickFirst _ _ => turn_stopped h tickFirst

theorem idle_of_waiting (h : o.loop.phase = .waiting) (hs : o.loop.hasSignal = false)
    (hdue : o.now < o.loop.due) : o.Idle := by
  intro tickFirst draws m
  simp [turn, h, Loop.turn, hs, Nat.not_le.mpr hdue]

/-! ### The rhythm -/

/-- The first multiples of a period. -/
def beats (P n : Nat) : List Nat := (List.range n).map (· * P)

theorem beats_succ (P n : Nat) : beats P (n + 1) = beats P n ++ [n * P] := by
  simp [beats, List.range_succ]

/-- The ticks of a loop, after so many of its polls: the next one is not missed, or it has just been
taken for a poll. -/
structure Ticks (P n : Nat) (o : Operation) : Prop where
  period : o.loop.period = P
  taken : o.loop.phase = .polling false → o.now = n * P ∧ o.loop.due = (n + 1) * P
  ahead : o.loop.phase ≠ .polling false →
    o.loop.due = n * P ∧ o.now ≤ n * P ∧ n * P ≤ o.now + P

/-- **The loop in the rhythm of its ticks**, with no request made. -/
structure OnBeat (P n : Nat) (o : Operation) : Prop where
  told : o.Told
  unset : o.Unset
  ticks : o.Ticks P n

theorem OnBeat.start (config : ConsumerConfig) :
    OnBeat (Loop.periodOf config) 0 (start config false) where
  told := .start config false
  unset := ⟨rfl, rfl, by simp [Operation.start, Loop.start]⟩
  ticks := ⟨rfl, fun h => (by cases h), fun _ => (by simp [Operation.start, Loop.start])⟩

/-- A tick that is taken when it is due sets the next one a period later. -/
theorem takeTick_due {l : Loop} {now : Nat} (h : l.due = now) :
    (l.takeTick now).due = now + l.period := by
  simp [Loop.takeTick, Loop.nextDue, h]

/-- Polls are on the beat, and turns keep it. -/
theorem OnBeat.turned (h : OnBeat P n o) (tickFirst : Bool) (ht : Turned o draws m o') : ∃ n',
    o'.Ticks P n' ∧ beats P n ++ o.polls (.turn tickFirst draws m) = beats P n' := by
  have hsilent : (∀ final, o.loop.phase ≠ .polling final) →
      beats P n ++ o.polls (.turn tickFirst draws m) = beats P n := by
    intro hphase
    rw [polls_of_not_polling hphase, List.append_nil]
  cases ht with
  | looked hphase =>
    have hahead := h.ticks.ahead (by simp [hphase])
    exact ⟨n, ⟨h.ticks.period, fun hp => by simp [h.unset.flag] at hp, fun _ => hahead⟩,
      hsilent (by simp [hphase])⟩
  | ticked hphase hdue' =>
    -- the tick is due and has not been missed
    obtain ⟨hdue, hle, -⟩ := h.ticks.ahead (by simp [hphase])
    have hat : o.now = n * P := by omega
    refine ⟨n, ⟨h.ticks.period, fun _ => ⟨hat, ?_⟩, fun hp => absurd rfl hp⟩,
      hsilent (by simp [hphase])⟩
    rw [takeTick_due (hdue.trans hat.symm), hat, h.ticks.period, Nat.succ_mul]
  | heard hphase hc =>
    have hahead := h.ticks.ahead (by simp [hphase])
    exact ⟨n, ⟨h.ticks.period, fun hp => by simp [h.unset.flag] at hp, fun _ => hahead⟩,
      hsilent (by simp [hphase])⟩
  | gone hphase hc ha => simp [h.unset.alive] at ha
  | polled final hphase =>
    cases final with
    | true => exact absurd hphase h.unset.goes_on.2
    | false =>
      obtain ⟨hat, hdue⟩ := h.ticks.taken hphase
      refine ⟨n + 1, ⟨h.ticks.period, fun hp => (by cases hp), fun _ => ⟨hdue, ?_⟩⟩, ?_⟩
      · rw [Nat.succ_mul, ← hat]
        exact ⟨Nat.le_add_right _ _, le_rfl⟩
      · rw [polls_of_polling hphase, hat, beats_succ]
  | waiting hphase hs hdue => exact ⟨n, h.ticks, hsilent (by simp [hphase])⟩
  | finished hphase =>
    refine ⟨n, h.ticks, hsilent ?_⟩
    rcases hphase with hphase | ⟨final, hphase⟩ <;> simp [hphase]

theorem OnBeat.act (h : OnBeat P n o) (x : Happening) : ∃ n',
    (o.act x).Ticks P n' ∧ beats P n ++ o.polls x = beats P n' := by
  cases x with
  | turn tickFirst draws m => exact h.turned tickFirst (o.turn_cases tickFirst draws m)
  | others deeds =>
    exact ⟨n, ⟨h.ticks.period, h.ticks.taken, h.ticks.ahead⟩, List.append_nil _⟩
  | signal y => exact ⟨n, h.ticks, List.append_nil _⟩
  | wait ms => exact ⟨n, h.ticks, List.append_nil _⟩

/-- Signals leave the ticks as they are, and so does time that does not go beyond the next one. -/
theorem Ticks.meanwhile (h : o.Ticks P n) (xs : List Signal) {ms : Nat}
    (hms : ms = 0 ∨ o.loop.phase ≠ .polling false ∧ o.now + ms ≤ o.loop.due) :
    (o.meanwhile xs ms).Ticks P n := by
  have hphase := signals_phase xs o.loop
  obtain ⟨hdue, hperiod⟩ := signals_ticks xs o.loop
  refine ⟨hperiod.trans h.period, ?_, ?_⟩
  · intro hp
    have hpolling := hphase.symm.trans hp
    obtain rfl : ms = 0 := hms.resolve_right fun hrest => hrest.1 hpolling
    obtain ⟨hat, hnext⟩ := h.taken hpolling
    exact ⟨hat, hdue.trans hnext⟩
  · intro hp
    obtain ⟨hnext, hle, hge⟩ := h.ahead fun hpolling => hp (hphase.trans hpolling)
    refine ⟨hdue.trans hnext, ?_⟩
    simp only [Operation.meanwhile]
    omega

/-- **One thing that happens in time** keeps the beat, while no request comes. -/
theorem OnBeat.next (h : OnBeat P n o) (hin : o.InTime x) (hx : ∀ y ∈ x.signals, y = .send false) :
    ∃ n', OnBeat P n' (o.next x) ∧ beats P n ++ o.polls x = beats P n' := by
  obtain ⟨n', hact, hpolls⟩ := h.act x
  refine ⟨n', ⟨h.told.next x, h.unset.next hx, hact.meanwhile x.signals ?_⟩, hpolls⟩
  rcases hin with hms | ⟨hturn, hidle, hdue⟩
  · exact .inl hms
  · -- time passes, so the loop waits
    obtain ⟨hphase, -⟩ := (hidle.rests h.told).resolve_left h.unset.goes_on.1
    have hsame : (o.act x).loop = o.loop ∧ (o.act x).now = o.now := by
      cases x with
      | turn tickFirst draws m => cases hturn
      | _ => exact ⟨rfl, rfl⟩
    rw [hsame.1, hsame.2]
    exact .inr ⟨by simp [hphase], hdue hphase⟩

/-- **A run with no request** polls at the multiples of the period. -/
theorem OnBeat.run (h : OnBeat P n o) {hs : List Happening} (hprompt : o.Prompt hs)
    (hfalse : ∀ y ∈ signals hs, y = .send false) :
    ∃ n', OnBeat P n' (hs.foldl Operation.next o) ∧ beats P n ++ o.pollTimes hs = beats P n' := by
  induction hs generalizing o n with
  | nil => exact ⟨n, h, List.append_nil _⟩
  | cons x hs ih =>
    obtain ⟨hin, hrest⟩ := hprompt
    obtain ⟨n', hnext, hpolls⟩ := h.next hin fun y hy => hfalse y (by simp [signals, hy])
    obtain ⟨n'', hrun, htimes⟩ := ih hnext hrest fun y hy =>
      hfalse y (List.mem_append_right _ hy)
    refine ⟨n'', hrun, ?_⟩
    rw [pollTimes, ← List.append_assoc, hpolls, htimes]

/-- How many polls there have been between two ticks. -/
theorem Ticks.count (h : o.Ticks P n) (hbetween : ¬ P ∣ o.now) :
    n = o.now / P + 1 ∧ o.now < o.loop.due ∧ o.loop.phase ≠ .polling false := by
  have hphase : o.loop.phase ≠ .polling false := by
    intro hp
    exact hbetween ⟨n, by rw [(h.taken hp).1, Nat.mul_comm]⟩
  obtain ⟨hdue, hle, hge⟩ := h.ahead hphase
  have hlt : o.now < n * P := lt_of_le_of_ne hle fun heq => hbetween ⟨n, by rw [heq, Nat.mul_comm]⟩
  refine ⟨?_, hdue ▸ hlt, hphase⟩
  obtain ⟨k, rfl⟩ : ∃ k, n = k + 1 := Nat.exists_eq_succ_of_ne_zero (by rintro rfl; simp at hlt)
  rw [Nat.succ_mul] at hge
  rw [Nat.div_eq_of_lt_le (Nat.le_of_add_le_add_right hge) hlt]

/-! ### The end -/

/-- **After a request between two ticks**: until the loop stops no time passes, so that the next tick
stays ahead. -/
structure Asked (s : Nat) (o : Operation) : Prop where
  told : o.Told
  asked : o.loop.flag = true ∨ o.loop.alive = false
  goes_on : o.loop.phase ≠ .stopped → o.now = s ∧ s < o.loop.due ∧ o.loop.phase ≠ .polling false

/-- The last poll, if it has been. -/
def lastPoll (s : Nat) (o : Operation) : List Nat := if o.loop.phase = .stopped then [s] else []

/-- A turn after a request is one of the last. -/
theorem Asked.turned (h : o.Asked s) (hgoes : o.loop.phase ≠ .stopped) (tickFirst : Bool)
    (ht : Turned o draws m o') : o'.Asked s ∧
      closingTurns o'.loop + 1 ≤ closingTurns o.loop ∧
      o.polls (.turn tickFirst draws m) = lastPoll s o' := by
  have htold := h.told.turned ht
  obtain ⟨hflag, halive, -⟩ := ht.frame
  have hasked : o'.loop.flag = true ∨ o'.loop.alive = false := by
    rw [hflag, halive]
    exact h.asked
  obtain ⟨hat, hahead, hnot⟩ := h.goes_on hgoes
  -- no tick is due, so that the turn is not one
  have hturns : closingTurns o'.loop + 1 ≤ closingTurns o.loop := by
    have hlower := h.told.turned_asked h.asked hgoes ht
    rcases ht.ticks_cases.2 with hsame | hdue <;> omega
  cases ht with
  | looked hphase =>
    refine ⟨⟨htold, hasked, fun _ => ⟨hat, hahead, ?_⟩⟩, hturns, ?_⟩
    · cases o.loop.flag <;> simp
    · rw [polls_of_not_polling (by simp [hphase])]
      cases o.loop.flag <;> simp [lastPoll]
  | ticked hphase hdue => omega
  | heard hphase hc =>
    refine ⟨⟨htold, hasked, fun _ => ⟨hat, hahead, ?_⟩⟩, hturns, ?_⟩
    · cases o.loop.flag <;> simp
    · rw [polls_of_not_polling (by simp [hphase])]
      cases o.loop.flag <;> simp [lastPoll]
  | gone hphase hc ha =>
    refine ⟨⟨htold, hasked, fun _ => ⟨hat, hahead, by simp⟩⟩, hturns, ?_⟩
    rw [polls_of_not_polling (by simp [hphase])]
    simp [lastPoll]
  | polled final hphase =>
    cases final with
    | false => exact absurd hphase hnot
    | true =>
      refine ⟨⟨htold, hasked, fun hgo => absurd rfl hgo⟩, hturns, ?_⟩
      rw [polls_of_polling hphase, hat]
      rfl
  | waiting hphase hs hdue =>
    rw [h.told.hasSignal h.asked hphase] at hs
    cases hs
  | finished hphase =>
    rcases hphase with hphase | ⟨final, hphase⟩
    · exact absurd hphase hgoes
    · exact absurd hphase h.told.not_queued

/-- Signals that do not take a request back leave it as it is. -/
theorem signals_asked {xs : List Signal} {l : Loop} (h : l.flag = true ∨ l.alive = false)
    (hxs : .send false ∉ xs) :
    ((xs.foldl Loop.signal l).flag = true ∨ (xs.foldl Loop.signal l).alive = false) ∧
      closingTurns (xs.foldl Loop.signal l) = closingTurns l := by
  cases halive : l.alive with
  | false =>
    rw [signals_dead halive]
    exact ⟨h, rfl⟩
  | true =>
    have hset : l.flag = true := h.resolve_right (by simp [halive])
    have hflag : (xs.foldl Loop.signal l).flag = true := signals_flag hset hxs
    refine ⟨.inl hflag, ?_⟩
    simp [closingTurns, hflag, signals_phase, hset]

/-- **One thing that happens in time** after a request. -/
theorem Asked.next (h : o.Asked s) (hgoes : o.loop.phase ≠ .stopped) (hin : o.InTime x)
    (hx : .send false ∉ x.signals) : (o.next x).Asked s ∧
      closingTurns (o.next x).loop + (if x.isTurn then 1 else 0) ≤ closingTurns o.loop ∧
      o.polls x = lastPoll s (o.next x) := by
  have hms : x.ms = 0 := by
    refine hin.resolve_right ?_
    rintro ⟨-, hidle, -⟩
    rcases hidle.rests h.told with hstopped | ⟨hphase, hsignal, -⟩
    · exact hgoes hstopped
    · rw [h.told.hasSignal h.asked hphase] at hsignal
      cases hsignal
  have hact : (o.act x).Asked s ∧
      closingTurns (o.act x).loop + (if x.isTurn then 1 else 0) ≤ closingTurns o.loop ∧
      o.polls x = lastPoll s (o.act x) := by
    cases x with
    | turn tickFirst draws m => exact h.turned hgoes tickFirst (o.turn_cases tickFirst draws m)
    | others deeds =>
      exact ⟨⟨h.told.act (.others deeds), h.asked, h.goes_on⟩, le_rfl, (if_neg hgoes).symm⟩
    | signal y => exact ⟨h, le_rfl, (if_neg hgoes).symm⟩
    | wait ms => exact ⟨h, le_rfl, (if_neg hgoes).symm⟩
  obtain ⟨hasked, hturns, hpolls⟩ := hact
  have hphase := signals_phase x.signals (o.act x).loop
  obtain ⟨hdue, -⟩ := signals_ticks x.signals (o.act x).loop
  obtain ⟨hstill, hsame⟩ := signals_asked hasked.asked hx
  refine ⟨⟨h.told.next x, hstill, ?_⟩, ?_, ?_⟩
  · intro hgo
    obtain ⟨hat, hahead, hnot⟩ := hasked.goes_on fun hstopped => hgo (hphase.trans hstopped)
    refine ⟨?_, hahead.trans_eq hdue.symm, fun hpolling => hnot (hphase.symm.trans hpolling)⟩
    rw [Operation.next, Operation.meanwhile, hms, hat, Nat.add_zero]
  · rw [Operation.next, Operation.meanwhile, hsame]
    exact hturns
  · rw [hpolls, lastPoll, lastPoll, Operation.next, Operation.meanwhile, hphase]

theorem pollTimes_stopped (h : o.loop.phase = .stopped) (hs : List Happening) :
    o.pollTimes hs = [] := by
  induction hs generalizing o with
  | nil => rfl
  | cons x hs ih =>
    rw [pollTimes, ih (next_stopped h x), polls_of_not_polling (by simp [h]), List.append_nil]

/-- **All that happens after a request**: only so many turns have been taken, and no time has passed;
or the loop has stopped, and has polled once more at the time of the request. -/
theorem Asked.run (h : o.Asked s) (hgoes : o.loop.phase ≠ .stopped) {hs : List Happening}
    (hprompt : o.Prompt hs) (hkept : .send false ∉ signals hs) :
    ((hs.foldl Operation.next o).now = s ∧ turns hs < closingTurns o.loop) ∨
      (hs.foldl Operation.next o).loop.phase = .stopped ∧ o.pollTimes hs = [s] := by
  induction hs generalizing o with
  | nil => exact .inl ⟨(h.goes_on hgoes).1, closingTurns_pos hgoes⟩
  | cons x hs ih =>
    obtain ⟨hin, hrest⟩ := hprompt
    have hx : .send false ∉ x.signals := fun hy => hkept (by simp [signals, hy])
    have hkept' : .send false ∉ signals hs := fun hy => hkept (List.mem_append_right _ hy)
    obtain ⟨hnext, hturns, hpolls⟩ := h.next hgoes hin hx
    rw [pollTimes, hpolls]
    by_cases hdone : (o.next x).loop.phase = .stopped
    · refine .inr ⟨stays_stopped hdone hs, ?_⟩
      rw [lastPoll, if_pos hdone, pollTimes_stopped hdone, List.append_nil]
    · rw [lastPoll, if_neg hdone, List.nil_append]
      refine (ih hnext hdone hrest hkept').imp_left ?_
      rintro ⟨hat, hleft⟩
      refine ⟨hat, ?_⟩
      rw [turns_cons]
      omega

/-- A request leaves the flag set or the sender gone. -/
theorem signals_request {xs : List Signal} (hlast : xs.getLast?.any (· ≠ .send false) = true)
    {l : Loop} (h : l.alive = true) :
    (xs.foldl Loop.signal l).flag = true ∨ (xs.foldl Loop.signal l).alive = false := by
  by_cases hgone : .dropSender ∈ xs
  · exact .inr (signals_gone hgone l)
  · refine .inl ?_
    obtain ⟨y, hy, hne⟩ := (Option.any_eq_true _ _).mp hlast
    cases y with
    | dropSender => exact absurd (List.mem_of_getLast? hy) hgone
    | send value =>
      cases value with
      | true => exact signals_last hy hgone h
      | false => simp at hne

/-- **A request between two ticks** finds the loop with the next tick ahead. -/
theorem OnBeat.request (h : OnBeat P n o) (hin : o.InTime x) (hx : x.requests = true)
    (hbetween : ¬ P ∣ o.now) : (o.next x).Asked o.now ∧ (o.next x).loop.phase ≠ .stopped ∧
      beats P n ++ o.polls x = beats P (o.now / P + 1) := by
  have hms : x.ms = 0 := by
    rcases hin with hms | ⟨hturn, -, -⟩
    · exact hms
    · cases x with
      | turn tickFirst draws m => cases hturn
      | signal y => rfl
      | _ => cases hx
  obtain ⟨n', hact, hpolls⟩ := h.act x
  obtain ⟨-, halive, hnow⟩ := o.act_frame x
  obtain ⟨hn, hahead, hnot⟩ := hact.count (hnow ▸ hbetween)
  have hphase := signals_phase x.signals (o.act x).loop
  obtain ⟨hdue, -⟩ := signals_ticks x.signals (o.act x).loop
  refine ⟨⟨h.told.next x, signals_request hx (halive.trans h.unset.alive), ?_⟩, ?_, ?_⟩
  · intro _
    refine ⟨?_, ?_, fun hpolling => hnot (hphase.symm.trans hpolling)⟩
    · rw [Operation.next, Operation.meanwhile, hms, hnow, Nat.add_zero]
    · exact (hnow ▸ hahead).trans_eq hdue.symm
  · exact fun hstopped => (h.unset.act x).1 (hphase.symm.trans hstopped)
  · rw [hpolls, hn, hnow]

end Operation

open Operation

/-- **When the loop polls.** Let all that happens up to the end be in time, and let a request to shut
down come between two ticks. Then the loop polls at the multiples of its period until the request, and
once more at the time of the request, whatever flags have been sent but not set. After a request that
is not taken back five turns are enough, and no time passes before the end. -/
theorem poll_schedule (config : ConsumerConfig) {before during : List Happening} {x : Happening}
    (hprompt : (start config false).Prompt (before ++ x :: during))
    (hbefore : ∀ y ∈ signals before, y = .send false) (hx : x.requests = true)
    (hbetween : ¬ Loop.periodOf config ∣ (run config false before).now)
    (hkept : .send false ∉ signals during)
    (hend : 5 ≤ turns during ∨
      (run config false before).now < (run config false (before ++ x :: during)).now)
    (later : List Happening) :
    let P := Loop.periodOf config
    let s := (run config false before).now
    let all := before ++ x :: during ++ later
    (run config false all).loop.phase = .stopped ∧
      (start config false).pollTimes all = (List.range (s / P + 1)).map (· * P) ++ [s] ∧
      (run config false all).acts.countP Act.isPoll = s / P + 2 := by
  intro P s all
  obtain ⟨hfirst, hthen⟩ := prompt_append.mp hprompt
  obtain ⟨hin, hrest⟩ : (run config false before).Prompt (x :: during) := hthen
  obtain ⟨n, hbeat, htimes⟩ : ∃ n, OnBeat P n (run config false before) ∧
      (start config false).pollTimes before = beats P n :=
    (OnBeat.start config).run hfirst hbefore
  obtain ⟨hasked, hgoes, hpolls⟩ := hbeat.request hin hx hbetween
  have hrun : run config false (before ++ x :: during) =
      during.foldl next ((run config false before).next x) := by
    simp only [run, List.foldl_append, List.foldl_cons]
  have hall : run config false all = later.foldl next (run config false (before ++ x :: during)) :=
    List.foldl_append
  rw [hrun] at hend
  obtain ⟨hstopped, hlast⟩ := (hasked.run hgoes hrest hkept).resolve_left fun hleft => by
    have hfive := closingTurns_le ((run config false before).next x).loop
    rw [if_neg (hasked.goes_on hgoes).2.2] at hfive
    rcases hend with hturns | hlater
    · omega
    · exact absurd hleft.1 hlater.ne'
  rw [← hrun] at hstopped
  have hpolled : (start config false).pollTimes all = beats P (s / P + 1) ++ [s] := by
    have hlater := pollTimes_stopped hstopped later
    calc (start config false).pollTimes all
      _ = (start config false).pollTimes (before ++ x :: during) := by
        rw [pollTimes_append]
        exact (congrArg _ hlater).trans (List.append_nil _)
      _ = (start config false).pollTimes before ++ ((run config false before).polls x ++ [s]) := by
        rw [pollTimes_append, pollTimes, ← hlast]
        rfl
      _ = beats P (s / P + 1) ++ [s] := by
        rw [← List.append_assoc, htimes, hpolls]
  refine ⟨?_, hpolled, ?_⟩
  · rw [hall]
    exact stays_stopped hstopped later
  · have hcount := acts_polls (start config false) all
    rw [hpolled] at hcount
    refine hcount.trans ?_
    simp [beats, start]

/-- A period of five milliseconds, a flag that is sent but not set after three of them, and a sender
that is gone after seven. -/
theorem poll_schedule_woken :
    let config := ConsumerConfig.standard.withPollInterval 5
    let turn := Happening.turn false (fun _ => default) .nothing
    let before := [turn, turn, turn, turn, .wait 3, .signal (.send false), turn, turn, .wait 2,
      turn, turn, turn, .wait 2]
    let during := [turn, turn, .wait 1]
    let hs := before ++ .signal .dropSender :: during
    (run config false hs).loop.phase = .stopped ∧
      (start config false).pollTimes hs = [0, 5, 7] := by
  intro config turn before during hs
  have hrests : ∀ {o : Operation} {ms : Nat}, (o.loop.phase = .waiting ∧
      o.loop.hasSignal = false ∧ o.now < o.loop.due) ∧ o.now + ms ≤ o.loop.due →
      o.InTime (.wait ms) :=
    fun h => .inr ⟨rfl, idle_of_waiting h.1.1 h.1.2.1 h.1.2.2, fun _ => h.2⟩
  have hprompt : (start config false).Prompt hs := by
    refine ⟨.inl rfl, .inl rfl, .inl rfl, .inl rfl, hrests (by decide +kernel), .inl rfl, .inl rfl,
      .inl rfl, hrests (by decide +kernel), .inl rfl, .inl rfl, .inl rfl,
      hrests (by decide +kernel), .inl rfl, .inl rfl, .inl rfl, ?_, trivial⟩
    exact .inr ⟨rfl, idle_of_stopped (by decide +kernel),
      fun hw => absurd hw (by decide +kernel)⟩
  have hnow : (run config false before).now = 7 := by decide +kernel
  have hfalse : ∀ y ∈ signals before, y = .send false := by decide +kernel
  have hend : (run config false before).now < (run config false hs).now := by decide +kernel
  obtain ⟨hstopped, htimes, -⟩ := poll_schedule config hprompt hfalse rfl
    (hnow ▸ by decide) (by decide) (.inr hend) []
  rw [hnow, List.append_nil] at htimes
  exact ⟨hstopped, htimes.trans (by decide)⟩

end OutboxProvisioning
