import OutboxProvisioning.Proofs.Rhythm

/-!
# The loop that runs is in time

A running loop does all that it can at a moment, and time takes it from tick to tick. So along every
timeline of signals it is an operation at work to which all happens in time.

* `Operation.Leads`: an operation comes to another one in time, by some signals.
* `Running.Rests`: a loop that has done all that it can, and an operation that is as far.
* `Rests.advance`, `Rests.moment`: the ticks up to a moment, and the moment.
* `observe_prompt`: **along every timeline of signals all happens in time**, and each signal comes at
  its moment.
-/

namespace OutboxProvisioning

namespace Operation

variable {o o' o'' : Operation} {xs ys : List (Nat × Signal)} {x : Happening}

/-- The signals with their times. -/
def timedSignals (o : Operation) : List Happening → List (Nat × Signal)
  | [] => []
  | x :: hs => x.signals.map (o.now, ·) ++ (o.next x).timedSignals hs

theorem timedSignals_append (o : Operation) (hs more : List Happening) :
    o.timedSignals (hs ++ more) = o.timedSignals hs ++ (hs.foldl next o).timedSignals more := by
  induction hs generalizing o with
  | nil => rfl
  | cons x hs ih =>
    simp only [List.cons_append, timedSignals, ih, List.append_assoc, List.foldl_cons]

/-- **An operation comes to another one in time**, with signals at certain times. -/
def Leads (o : Operation) (xs : List (Nat × Signal)) (o' : Operation) : Prop :=
  ∃ hs, o.Prompt hs ∧ o.timedSignals hs = xs ∧ hs.foldl next o = o'

theorem Leads.refl (o : Operation) : o.Leads [] o := ⟨[], trivial, rfl, rfl⟩

theorem Leads.trans (h : o.Leads xs o') (h' : o'.Leads ys o'') : o.Leads (xs ++ ys) o'' := by
  obtain ⟨hs, hprompt, rfl, rfl⟩ := h
  obtain ⟨hs', hprompt', rfl, rfl⟩ := h'
  exact ⟨hs ++ hs', prompt_append.mpr ⟨hprompt, hprompt'⟩, timedSignals_append _ _ _,
    List.foldl_append⟩

theorem InTime.leads (h : o.InTime x) : o.Leads (x.signals.map (o.now, ·)) (o.next x) :=
  ⟨[x], ⟨h, trivial⟩, List.append_nil _, rfl⟩

theorem Leads.told (h : o.Leads xs o') (htold : o.Told) : o'.Told := by
  obtain ⟨hs, -, -, rfl⟩ := h
  exact List.foldlRecOn hs next (motive := Told) htold fun _ ho x _ => ho.next x

/-- Turns alone take no time. -/
theorem leads_of_turns {hs : List Happening}
    (h : ∀ x ∈ hs, x.isTurn = true ∧ x.signals = [] ∧ x.ms = 0) : o.Leads [] (hs.foldl next o) := by
  induction hs generalizing o with
  | nil => exact .refl o
  | cons x hs ih =>
    obtain ⟨-, hsignals, hms⟩ := h x List.mem_cons_self
    have hfirst : o.Leads [] (o.next x) := by
      have hleads := InTime.leads (o := o) (.inl hms)
      rwa [hsignals] at hleads
    exact hfirst.trans (ih fun y hy => h y (List.mem_cons_of_mem _ hy))

end Operation

open Operation

namespace Running

variable {r : Running} {o : Operation} {m : Moment} {t limit : Nat}

/-- **A loop that has done all that it can** at a moment, and an operation that is as far. -/
structure Rests (r : Running) (o : Operation) : Prop where
  shows : r.Shows o
  told : o.Told
  done : r.turn = none

theorem Shows.settle (h : r.Shows o) (htold : o.Told) :
    ∃ o', o.Leads [] o' ∧ r.settle.Rests o' := by
  obtain ⟨hs, hturns, hshows⟩ := settle_turns h htold
  have hleads := leads_of_turns (o := o) hturns
  exact ⟨_, hleads, hshows, hleads.told htold, turn_settle r⟩

theorem Rests.idle (h : r.Rests o) : o.Idle := by
  have hdone := h.done
  rw [turn, ← h.shows.loop, ← h.shows.now] at hdone
  cases hphase : o.loop.phase with
  | ready => simp [hphase, Loop.turn] at hdone
  | waiting =>
    simp only [hphase, Option.map_eq_none_iff] at hdone
    have hdue := Loop.due_of_waiting hdone hphase
    refine idle_of_waiting hphase ?_ hdue
    by_contra hsignal
    simp [Loop.turn, hphase, hsignal] at hdone
  | polling final => simp [hphase] at hdone
  | queued final => exact absurd hphase h.told.not_queued
  | stopped => exact idle_of_stopped hphase

/-- Time passes up to the next tick at most. -/
theorem Rests.wait (h : r.Rests o) (hle : r.now ≤ t)
    (hdue : r.loop.phase = .waiting → t ≤ r.loop.due) :
    ∃ o', o.Leads [] o' ∧ ({ r with now := t } : Running).Shows o' ∧ o'.Told := by
  have hnow : o.now + (t - r.now) = t := by
    rw [h.shows.now]
    omega
  have hin : o.InTime (.wait (t - r.now)) := by
    refine .inr ⟨rfl, h.idle, ?_⟩
    intro hphase
    change o.now + (t - r.now) ≤ o.loop.due
    rw [hnow, h.shows.loop]
    exact hdue (h.shows.loop ▸ hphase)
  exact ⟨_, hin.leads, ⟨h.shows.config, h.shows.loop, h.shows.store, hnow⟩, h.told.next _⟩

/-- A tick comes when it is due. -/
theorem Rests.tick (h : r.Rests o) (hdue : r.isDueBy limit = true) :
    let ticked := ({ r with now := r.loop.due } : Running).settle
    ticked.now ≤ limit ∧ ∃ o', o.Leads [] o' ∧ ticked.Rests o' := by
  simp only [isDueBy, Bool.and_eq_true, decide_eq_true_eq] at hdue
  have hlt : r.now < r.loop.due := by
    obtain ⟨-, -, hlt⟩ := (h.idle.rests h.told).resolve_left (by simp [h.shows.loop, hdue.1])
    rwa [h.shows.now, h.shows.loop] at hlt
  obtain ⟨o₁, hwait, hshows, htold⟩ := h.wait hlt.le fun _ => le_rfl
  obtain ⟨o₂, hsettle, hrests⟩ := hshows.settle htold
  exact ⟨(settle_now _).trans_le hdue.2, o₂, hwait.trans hsettle, hrests⟩

/-- **The ticks up to a moment** come when they are due. -/
theorem Rests.advance (h : r.Rests o) (hle : r.now ≤ limit) :
    (r.advance limit).now ≤ limit ∧ (r.advance limit).isDueBy limit = false ∧
      ∃ o', o.Leads [] o' ∧ (r.advance limit).Rests o' := by
  fun_induction Running.advance r limit generalizing o with
  | case1 r hdue ticked hn _ =>
    rename_i ih
    obtain ⟨hnow, o₁, htick, hrests⟩ := h.tick hdue
    obtain ⟨hnow', hnone, o₂, hlater, hrests'⟩ := ih hrests hnow
    exact ⟨hnow', hnone, o₂, htick.trans hlater, hrests'⟩
  | case2 r hdue ticked =>
    rename_i hnone
    obtain ⟨hnow, o₁, htick, hrests⟩ := h.tick hdue
    exact ⟨hnow, Bool.eq_false_iff.mpr hnone, o₁, htick, hrests⟩
  | case3 r hdue => exact ⟨hle, Bool.eq_false_iff.mpr hdue, o, .refl o, h⟩

theorem Shows.signal (h : r.Shows o) (y : Signal) :
    ({ r with loop := r.loop.signal y } : Running).Shows (o.next (.signal y)) :=
  ⟨h.config, congrArg (Loop.signal · y) h.loop, h.store, h.now⟩

/-- **A moment at which nobody uses the store.** -/
theorem Rests.moment (h : r.Rests o) (hsteps : m.steps = []) (hle : r.now ≤ m.time) :
    (r.moment m).2.now = m.time ∧
      ∃ o', o.Leads (m.signal.map (m.time, ·)).toList o' ∧ (r.moment m).2.Rests o' := by
  obtain ⟨time, steps, signal⟩ := m
  subst hsteps
  obtain ⟨hnow, hnone, o₁, hticks, hrests⟩ := h.advance hle
  have hahead : (r.advance time).loop.phase = .waiting → time ≤ (r.advance time).loop.due := by
    intro hphase
    simp only [isDueBy, hphase, decide_true, Bool.true_and, decide_eq_false_iff_not] at hnone
    omega
  obtain ⟨o₂, hwait, hshows, htold⟩ := hrests.wait hnow hahead
  cases signal with
  | none =>
    obtain ⟨o₃, hsettle, hdone⟩ := hshows.settle htold
    exact ⟨settle_now _, o₃, (hticks.trans hwait).trans hsettle, hdone⟩
  | some y =>
    obtain ⟨o₃, hsettle, hdone⟩ := (hshows.signal y).settle (htold.next _)
    have hsignal : o₂.Leads [(o₂.now, y)] (o₂.next (.signal y)) :=
      InTime.leads (x := .signal y) (.inl rfl)
    rw [hshows.now] at hsignal
    exact ⟨settle_now _, o₃, ((hticks.trans hwait).trans hsignal).trans hsettle, hdone⟩

theorem Rests.moments (h : r.Rests o) {ms : List Moment} (hsteps : ∀ m ∈ ms, m.steps = [])
    (htimes : (r.now :: ms.map Moment.time).Pairwise (· ≤ ·)) :
    ∃ o', o.Leads (ms.filterMap fun m => m.signal.map (m.time, ·)) o' ∧
      (Running.moments ms r).2.Rests o' := by
  induction ms generalizing r o with
  | nil => exact ⟨o, .refl o, h⟩
  | cons m ms ih =>
    obtain ⟨hle, hrest⟩ := List.pairwise_cons.mp htimes
    obtain ⟨hnow, o₁, hfirst, hrests⟩ :=
      h.moment (hsteps m List.mem_cons_self) (hle _ List.mem_cons_self)
    obtain ⟨o₂, hlater, hdone⟩ := ih hrests (fun m' hm' => hsteps m' (List.mem_cons_of_mem _ hm'))
      (by rw [hnow]; exact hrest)
    refine ⟨o₂, ?_, hdone⟩
    have hsplit : (m :: ms).filterMap (fun m => m.signal.map (m.time, ·)) =
        (m.signal.map (m.time, ·)).toList ++ ms.filterMap fun m => m.signal.map (m.time, ·) := by
      cases hy : m.signal <;> simp [hy]
    rw [hsplit]
    exact hfirst.trans hlater

end Running

/-- **Along every timeline of signals all happens in time**: the loop that runs goes as an operation
at work does, with each signal at its moment. -/
theorem observe_prompt (config : ConsumerConfig) (flag : Bool) (draws : Nat → Draw)
    {ms : List Running.Moment} (hsteps : ∀ m ∈ ms, m.steps = [])
    (htimes : (ms.map Running.Moment.time).Pairwise (· ≤ ·)) : ∃ hs,
    (start config flag).Prompt hs ∧
      (start config flag).timedSignals hs = (ms.filterMap fun m => m.signal.map (m.time, ·)) ∧
      (observe config flag (.start draws) ms).running.Shows (run config flag hs) := by
  have hstart : (Running.start config flag (.start draws)).Shows (start config flag) :=
    ⟨rfl, rfl, rfl, rfl⟩
  obtain ⟨o₁, hsettle, hrests⟩ := hstart.settle (.start config flag)
  obtain ⟨o₂, hmoments, hrests'⟩ := hrests.moments hsteps (by
    rw [Running.settle_now]
    exact List.pairwise_cons.mpr ⟨fun _ _ => Nat.zero_le _, htimes⟩)
  obtain ⟨-, -, o₃, hlast, hend⟩ := hrests'.advance (Nat.le_succ _)
  obtain ⟨hs, hprompt, hsignals, hresult⟩ := (hsettle.trans hmoments).trans hlast
  refine ⟨hs, hprompt, hsignals.trans (List.append_nil _), ?_⟩
  rw [run, hresult]
  exact hend.shows

end OutboxProvisioning
