import OutboxProvisioning.Consumer.Timeline
import OutboxProvisioning.Proofs.Finality
import OutboxProvisioning.Proofs.Journal

/-!
# The log of a loop that shares its store

The loop takes its turns, others take steps on the store, signals are sent and time passes, in any
order. The workspaces that are gained where events are handled are kept beside the state: the log
tells of these, and of no others.

* `Script.step_recorded`: one step of others.
* `Running.Reports`, `Running.turn_logs`: one turn of the loop, and what it logs.
* `Running.course_recorded`: any number of occurrences.
* `observe_course`: what is observed of a loop is a course of occurrences.
* `Shared.logs_accounted`: consumers and handlers who take turns within their batches.
* `log_tells`: **the log tells what happened.**
-/

namespace OutboxProvisioning

variable {s : Store} {o : OrganizationId} {w : Workspace} {log log' : List Log.Entry}

/-! ## Steps of others -/

/-- Whether events are handled by a step. -/
def Step.isHandling : Step → Bool
  | .handle _ | .redeliver _ | .poll _ => true
  | _ => false

namespace Store

/-- No deed takes a workspace away. -/
theorem Sound.perform_kept (h : s.Sound) (d : Deed) (hw : s.workspace? o = some w) :
    (s.perform d).workspace? o = some w := by
  cases d with
  | insert e =>
    simp only [Store.perform]
    split <;> exact hw
  | switch point on => exact hw
  | call c =>
    by_cases hc : c = .commit
    · subst hc
      rw [Store.perform]
      rcases h.commit_cases with hsame | ⟨t, ht, -, -, hworkspaces⟩
      · rw [hsame.workspace, hw]
      · rw [hworkspaces]
        -- what is staged is for organizations that have none
        cases hstaged : t.workspaces.find? o with
        | none => exact hw
        | some w' => cases hw.symm.trans ((h.fits ht).absent hstaged)
    · rw [Store.perform, (answer_same hc s).workspace, hw]

theorem Sound.deeds (h : s.Sound) (ds : List Deed) : (ds.foldl Store.perform s).Sound ∧
    ∀ {o w}, s.workspace? o = some w → (ds.foldl Store.perform s).workspace? o = some w := by
  induction ds generalizing s with
  | nil => exact ⟨h, fun hw => hw⟩
  | cons d ds ih =>
    obtain ⟨hsound, hkept⟩ := ih (h.perform d)
    exact ⟨hsound, fun hw => hkept (h.perform_kept d hw)⟩

/-- A command whose payload is rejected does not need the store to be free. -/
theorem handle_recorded (cmd : Command) (draw : Draw)
    (h : s.isOpen = true → cmd.subject.isOk = false) :
    Accounted s (s.handle cmd draw).1.log (s.handle cmd draw).2 := by
  cases ht : s.transaction with
  | none => exact handle_accounted ht cmd draw
  | some t =>
    have hbad := h (by simp [isOpen, ht])
    cases hsubject : cmd.subject with
    | ok x => simp [hsubject, Except.isOk, Except.toBool] at hbad
    | error err =>
      rw [handle, handle_run_error hsubject]
      exact .refl s

/-- A poll whose fetch fails does not need it either. -/
theorem Sound.poll_recorded (h : s.Sound) (hready : s.isOpen = true → s.faults.fetch = true)
    (config : ConsumerConfig) (draws : Nat → Draw) :
    let p := backend.poll config draws s
    Journal p.state (Store.fetch config.eventType config.batchSize s).1 p.result p.log ∧
      Accounted s p.log p.state := by
  rw [poll_fetched]
  refine fetched_recorded draws fun es hes => ⟨?_, h.fetched hes⟩
  cases ht : s.transaction with
  | none => rfl
  | some t =>
    have hfault := hready (by simp [isOpen, ht])
    simp [Store.fetch, hfault] at hes

end Store

namespace Script

variable {x : Script}

/-- A step has to wait, or it is performed. -/
theorem step_cases (x : Script) (reserved : Bool) (step : Step) :
    x.step reserved step = x.reply (waiting step) ∨
      x.step reserved step = x.perform step ∧
        (x.store.isOpen = true → x.needsStore step = false) := by
  unfold Script.step
  split
  · exact .inl rfl
  · next h =>
    refine .inr ⟨rfl, fun ho => ?_⟩
    simpa [ho] using h

/-- Only where events are handled something is logged. -/
theorem perform_log {step : Step} (h : step.isHandling = false) : (x.perform step).log = [] := by
  cases step with
  | handle cmd => cases h
  | redeliver id => cases h
  | poll config => cases h
  | sameTime id o =>
    simp only [perform]
    split <;> rfl
  | fetch eventType limit =>
    simp only [perform]
    split <;> rfl
  | inside name step =>
    simp only [perform]
    split
    · cases step with
      | workspaceExists o =>
        simp only [inside]
        split <;> rfl
      | _ => rfl
    · rfl
  | _ => rfl

/-- **A step that handles events** accounts for the workspaces that it adds. -/
theorem perform_accounted (hsound : x.store.Sound) {step : Step} (hhandling : step.isHandling = true)
    (h : x.store.isOpen = true → x.needsStore step = false) :
    Accounted x.store (x.perform step).log (x.perform step).script.store := by
  cases step with
  | handle cmd => exact Store.handle_recorded cmd x.draw h
  | redeliver id =>
    -- a redelivery looks the event up, so it has found the store free
    have hclosed : x.store.isOpen ≠ true := fun ho => by simpa [needsStore] using h ho
    simp only [perform]
    cases x.store.event? id with
    | none => exact .refl _
    | some e => exact Store.handle_recorded e.command x.draw fun ho => absurd ho hclosed
  | poll config => exact (hsound.poll_recorded (by simpa [needsStore] using h) config _).2
  | _ => cases hhandling

/-- **One step of others**, also if the store is reserved for somebody else. -/
theorem step_recorded (hsound : x.store.Sound) (reserved : Bool) (step : Step) :
    let r := x.step reserved step
    r.script.store.Sound ∧
      (∀ {o w}, x.store.workspace? o = some w → r.script.store.workspace? o = some w) ∧
      (step.isHandling = true → Accounted x.store r.log r.script.store) ∧
      (step.isHandling = false → r.log = []) := by
  rcases x.step_cases reserved step with hstep | ⟨hstep, hready⟩
  · rw [hstep]
    exact ⟨hsound, fun hw => hw, fun _ => .refl _, fun _ => rfl⟩
  · obtain ⟨hsound', hkept⟩ := hsound.deeds (x.performDeeds step)
    rw [← perform_store step hready] at hsound' hkept
    rw [hstep]
    exact ⟨hsound', hkept, fun h => perform_accounted hsound h hready, perform_log⟩

end Script

/-! ## Turns of the loop -/

theorem Accounted.append_silent {s' : Store} (h : Accounted s log s')
    (hlog : ∀ e ∈ log', e.isProvisioned = false) : Accounted s (log ++ log') s' :=
  h.trans (.of_same (fun _ => rfl) (List.filter_eq_nil_iff.mpr fun e he => by simp [hlog e he]))

@[simp] theorem Log.isProvisioned_batch (r : Except ProvisioningError Report) :
    (Log.batch r).isProvisioned = false := by
  unfold Log.batch
  split
  · simp [Log.Entry.isProvisioned]
  · split <;> simp [Log.Entry.isProvisioned]

@[simp] theorem Log.isProvisioned_started (config : ConsumerConfig) :
    (Log.started config).isProvisioned = false := by
  simp [Log.started, Log.Entry.isProvisioned]

@[simp] theorem Log.isProvisioned_stopped (config : ConsumerConfig) :
    (Log.stopped config).isProvisioned = false := by
  simp [Log.stopped, Log.Entry.isProvisioned]

theorem Store.Sound.pollFetched (h : s.Sound) (draws : Nat → Draw)
    (fetched : Except DomainError (List Event)) :
    (backend.pollFetched draws (fetched, s)).state.Sound := by
  cases fetched with
  | error e => exact h
  | ok es =>
    exact Backend.process_preserves
      (fun cmd draw s h => Program.run_preserves (fun c s h => h.answer c) _ h) (fun s h => h)
      draws 0 es h

namespace Running

variable {r r' : Running} {final : Bool} {fetched : Except DomainError (List Event)}
  {p : Polled Store}

theorem entries_note (r : Running) (entries : List Log.Entry) :
    (r.note entries).entries = r.entries ++ entries.map (r.now, ·) := by
  simp [note, Running.entries]

/-- **The loop polls**: at once, which it can unless it has to wait for the store, or after it has
waited. -/
inductive Polls (r : Running) : Bool → Except DomainError (List Event) → Polled Store → Prop
  | now {final : Bool} (hphase : r.loop.phase = .polling final)
      (hready : r.script.store.isOpen = true → r.script.store.faults.fetch = true) :
      Polls r final (Store.fetch r.config.eventType r.config.batchSize r.script.store).1
        (Store.backend.poll r.config r.script.nextDraws r.script.store)
  | later {final : Bool} (hphase : r.loop.phase = .queued final)
      (hfree : r.script.store.transaction = none) :
      Polls r final (.ok (r.script.store.oldest r.config.eventType r.config.batchSize))
        (Store.backend.pollFetched r.script.nextDraws
          (.ok (r.script.store.oldest r.config.eventType r.config.batchSize), r.script.store))

theorem Polls.recorded (h : r.Polls final fetched p) (hsound : r.script.store.Sound) :
    p.state.Sound ∧ Journal p.state fetched p.result p.log ∧
      Accounted r.script.store p.log p.state := by
  cases h with
  | now hphase hready =>
    refine ⟨?_, hsound.poll_recorded hready r.config r.script.nextDraws⟩
    rw [Store.poll_fetched]
    exact hsound.pollFetched _ _
  | later hphase hfree =>
    refine ⟨hsound.pollFetched _ _, Store.fetched_recorded _ fun es hes => ⟨hfree, ?_⟩⟩
    cases hes
    exact fun e he => hsound.oldest he

/-- **What a turn of the loop logs.** A poll logs its records, and the loop adds one more, and that
it stops if it has polled for the last time. Nothing else is logged by a turn. -/
inductive Reports (r : Running) : List Log.Entry → Running → Prop
  /-- It does not poll. -/
  | moves {loop : Loop}
      (hphase : ∀ final, r.loop.phase ≠ .polling final ∧ r.loop.phase ≠ .queued final) :
      Reports r [] { r with loop }
  /-- It has to wait for the store. -/
  | queues {final : Bool} (hphase : r.loop.phase = .polling final)
      (hopen : r.script.store.isOpen = true) :
      Reports r [] { r with loop := r.loop.queue final }
  | polls {r' : Running} {final : Bool} {fetched : Except DomainError (List Event)}
      {p : Polled Store} {summary : Log.Entry} (hpolls : r.Polls final fetched p)
      (hscript : r'.script = r.script.afterPoll p) (hloop : r'.loop = r.loop.polled final)
      (hjournal : Journal p.state fetched p.result p.log)
      (hsummary : Summarizes p.result p.log summary) :
      Reports r (p.log ++ [summary] ++ if final then [Log.stopped r.config] else []) r'

/-- What a turn does to the store and to the log. -/
structure Logs (r : Running) (entries : List Log.Entry) (r' : Running) : Prop where
  sound : r'.script.store.Sound
  appended : r'.entries = r.entries ++ entries.map (r.now, ·)
  reports : r.Reports entries r'
  accounted : Accounted r.script.store entries r'.script.store

theorem Polls.logs (h : r.Polls final fetched p) (hsound : r.script.store.Sound) :
    ∃ entries, r.Logs entries (r.afterPoll final p) := by
  obtain ⟨hsound', hjournal, haccounted⟩ := h.recorded hsound
  have hentries : (r.afterPoll final p).entries = r.entries ++
      (p.log ++ [Log.batch p.result] ++ if final then [Log.stopped r.config] else []).map
        (r.now, ·) := entries_note _ _
  refine ⟨_, hsound', hentries, .polls h rfl rfl hjournal hjournal.summary, ?_⟩
  refine (haccounted.append_silent ?_).append_silent ?_
  · simp
  · cases final <;> simp

/-- **One turn of the loop.** -/
theorem turn_logs (hsound : r.script.store.Sound) (h : r.turn = some r') :
    ∃ entries, r.Logs entries r' := by
  have silent : ∀ {loop : Loop}, r.Reports [] { r with loop } →
      ∃ entries, r.Logs entries { r with loop } :=
    fun hreports => ⟨[], hsound, (List.append_nil _).symm, hreports, .refl _⟩
  unfold turn at h
  -- a poll, a poll that has waited, or a turn between polls
  split at h
  · next final hphase =>
    cases h
    unfold poll
    split
    · next hwaits =>
      simp only [Bool.and_eq_true] at hwaits
      exact silent (.queues hphase hwaits.1)
    · next hgoes =>
      refine (Polls.now hphase fun ho => ?_).logs hsound
      simpa [ho] using hgoes
  · next final hphase =>
    split at h
    · cases h
    · next hclosed =>
      cases h
      exact (Polls.later hphase (by simpa [Store.isOpen] using hclosed)).logs hsound
  · next hpolling hqueued =>
    obtain ⟨loop, -, rfl⟩ := Option.map_eq_some_iff.mp h
    exact silent (.moves fun final => ⟨hpolling final, hqueued final⟩)

end Running

/-! ## Occurrences -/

/-- One thing that happens to the loop and its store. -/
inductive Occurrence
  /-- The loop takes its next turn, if it has not to wait for something. -/
  | turn
  | step (step : Step)
  | signal (x : Signal)
  | clock (now : Nat)

namespace Occurrence

/-- Whether events are handled then. -/
def isHandling : Occurrence → Bool
  | .turn => true
  | .step x => x.isHandling
  | .signal _ | .clock _ => false

/-- The step that is taken by others. -/
def step? : Occurrence → Option Step
  | .step x => some x
  | _ => none

end Occurrence

namespace Running

variable {r r' r'' : Running} {x : Occurrence} {xs : List Occurrence} {steps steps' : List Step}

/-- What is left when something has happened. -/
def occur (r : Running) : Occurrence → Running
  | .turn => r.turn.getD r
  | .step step => (r.step step).2
  | .signal x => { r with loop := r.loop.signal x }
  | .clock now => { r with now }

/-- What is left when some things have happened. -/
def course (r : Running) (xs : List Occurrence) : Running := xs.foldl occur r

/-- The workspaces that handlers add when something happens. -/
def addedBy (r : Running) (x : Occurrence) : List Workspace :=
  if x.isHandling then r.script.store.gained (r.occur x).script.store else []

/-- **The workspaces that handlers add** while some things happen. -/
def added (r : Running) : List Occurrence → List Workspace
  | [] => []
  | x :: xs => r.addedBy x ++ (r.occur x).added xs

theorem addedBy_of_handling (h : x.isHandling = true) :
    r.addedBy x = r.script.store.gained (r.occur x).script.store := if_pos h

theorem addedBy_of_silent (h : x.isHandling = false) : r.addedBy x = [] :=
  if_neg (Bool.eq_false_iff.mp h)

/-- **The log tells of these workspaces**, which have been added since. -/
structure Recorded (r r' : Running) (added : List Workspace) : Prop where
  sound : r'.script.store.Sound
  log : ∃ entries ws, r'.entries.map Prod.snd = r.entries.map Prod.snd ++ entries ∧
    List.Forall₂ Tells (entries.filter Log.Entry.isProvisioned) ws ∧ ws.Perm added ∧
    r.script.store.Gains r'.script.store ws

theorem Recorded.refl (h : r.script.store.Sound) : r.Recorded r [] :=
  ⟨h, [], [], (List.append_nil _).symm, .nil, .nil, .of_kept fun hw => hw⟩

theorem Recorded.trans {added added' : List Workspace} (h : r.Recorded r' added)
    (h' : r'.Recorded r'' added') : r.Recorded r'' (added ++ added') := by
  obtain ⟨entries, ws, hentries, htells, hperm, hgains⟩ := h.log
  obtain ⟨entries', ws', hentries', htells', hperm', hgains'⟩ := h'.log
  refine ⟨h'.sound, entries ++ entries', ws ++ ws', ?_, ?_, hperm.append hperm',
    hgains.trans hgains'⟩
  · rw [hentries', hentries, List.append_assoc]
  · rw [List.filter_append]
    exact List.rel_append htells htells'

/-- What handles events records the workspaces that are gained. -/
theorem Recorded.of_accounted {entries : List Log.Entry} (hsound : r'.script.store.Sound)
    (hentries : r'.entries = r.entries ++ entries.map (r.now, ·))
    (h : Accounted r.script.store entries r'.script.store) :
    r.Recorded r' (r.script.store.gained r'.script.store) := by
  obtain ⟨ws, hadds, htells⟩ := h
  refine ⟨hsound, entries, ws, ?_, htells, hadds.perm hsound, hadds.toGains⟩
  rw [hentries, List.map_append, List.map_map]
  exact congrArg _ (List.map_id' entries)

/-- Where nothing is logged, nothing is recorded. -/
theorem Recorded.of_silent (hsound : r'.script.store.Sound) (hentries : r'.entries = r.entries)
    (hkept : ∀ {o w}, r.script.store.workspace? o = some w → r'.script.store.workspace? o = some w) :
    r.Recorded r' [] :=
  ⟨hsound, [], [], by rw [hentries, List.append_nil], .nil, .nil, .of_kept hkept⟩

/-- **One occurrence.** -/
theorem occur_recorded (hsound : r.script.store.Sound) (x : Occurrence) :
    r.Recorded (r.occur x) (r.addedBy x) := by
  cases x with
  | turn =>
    cases hturn : r.turn with
    | none =>
      have hsame : r.occur .turn = r := by simp [occur, hturn]
      have hentries : r.entries = r.entries ++ ([] : List Log.Entry).map (r.now, ·) :=
        (List.append_nil _).symm
      rw [addedBy_of_handling rfl, hsame]
      exact .of_accounted hsound hentries (.refl _)
    | some r' =>
      have hnext : r.occur .turn = r' := by simp [occur, hturn]
      obtain ⟨entries, hlogs⟩ := turn_logs hsound hturn
      rw [addedBy_of_handling rfl, hnext]
      exact .of_accounted hlogs.sound hlogs.appended hlogs.accounted
  | step step =>
    obtain ⟨hsound', hkept, haccounted, hsilent⟩ :=
      Script.step_recorded hsound r.isReserved step
    have hentries : (r.occur (.step step)).entries =
        r.entries ++ (r.script.step r.isReserved step).log.map (r.now, ·) := entries_note _ _
    cases hhandling : step.isHandling with
    | true =>
      rw [addedBy_of_handling (x := .step step) hhandling]
      exact .of_accounted hsound' hentries (haccounted hhandling)
    | false =>
      rw [addedBy_of_silent (x := .step step) hhandling]
      rw [hsilent hhandling, List.map_nil, List.append_nil] at hentries
      exact .of_silent hsound' hentries hkept
  | signal x => exact .of_silent hsound rfl fun hw => hw
  | clock now => exact .of_silent hsound rfl fun hw => hw

/-- **Any number of occurrences.** -/
theorem course_recorded (hsound : r.script.store.Sound) (xs : List Occurrence) :
    r.Recorded (r.course xs) (r.added xs) := by
  induction xs generalizing r with
  | nil => exact .refl hsound
  | cons x xs ih =>
    -- what comes later is fresh in the store that the first occurrence leaves
    have hfirst := occur_recorded hsound x
    exact hfirst.trans (ih hfirst.sound)

/-! ## What is observed -/

/-- **One state leads to another** by occurrences, with these steps of others. -/
def Goes (r : Running) (steps : List Step) (r' : Running) : Prop :=
  ∃ xs, r.course xs = r' ∧ xs.filterMap Occurrence.step? = steps

theorem Goes.refl (r : Running) : r.Goes [] r := ⟨[], rfl, rfl⟩

theorem Goes.trans (h : r.Goes steps r') (h' : r'.Goes steps' r'') :
    r.Goes (steps ++ steps') r'' := by
  obtain ⟨xs, rfl, rfl⟩ := h
  obtain ⟨xs', rfl, rfl⟩ := h'
  exact ⟨xs ++ xs', List.foldl_append, List.filterMap_append⟩

/-- An occurrence that is no step of others. -/
theorem goes_occur (r : Running) (hx : x.step? = none) : r.Goes [] (r.occur x) :=
  ⟨[x], rfl, by simp [hx]⟩

theorem goes_settle (r : Running) : r.Goes [] r.settle := by
  fun_induction settle r with
  | case1 r => exact .refl r
  | case2 r r' hturn _ ih =>
    have hnext : r.occur .turn = r' := by simp [occur, hturn]
    exact (hnext ▸ r.goes_occur rfl).trans ih

theorem goes_advance (r : Running) (limit : Nat) : r.Goes [] (r.advance limit) := by
  have tick : ∀ r : Running, r.Goes [] ({ r with now := r.loop.due } : Running).settle :=
    fun r => (r.goes_occur (x := .clock r.loop.due) rfl).trans (goes_settle _)
  fun_induction advance r limit with
  | case1 r hdue next hn _ ih => exact (tick r).trans ih
  | case2 r hdue next hn => exact tick r
  | case3 r hdue => exact .refl r

theorem goes_steps (steps : List Step) (r : Running) : r.Goes steps (Running.steps steps r).2 := by
  induction steps generalizing r with
  | nil => exact .refl r
  | cons step steps ih =>
    have hfirst : r.Goes [step] (r.step step).2 := ⟨[.step step], rfl, rfl⟩
    exact hfirst.trans (ih _)

theorem goes_moment (r : Running) (m : Moment) : r.Goes m.steps (r.moment m).2 := by
  obtain ⟨time, steps, signal⟩ := m
  have hclock := (r.goes_advance time).trans ((r.advance time).goes_occur (x := .clock time) rfl)
  have hsteps : r.Goes steps (Running.steps steps { r.advance time with now := time }).2 :=
    hclock.trans (goes_steps steps _)
  have silent : ∀ {r' r'' : Running}, r.Goes steps r' → r'.Goes [] r'' → r.Goes steps r'' :=
    fun h h' => List.append_nil steps ▸ h.trans h'
  cases signal with
  | none => exact silent hsteps (goes_settle _)
  | some x => exact silent (silent hsteps (goes_occur (x := .signal x) _ rfl)) (goes_settle _)

theorem goes_moments (ms : List Moment) (r : Running) :
    r.Goes (ms.flatMap Moment.steps) (Running.moments ms r).2 := by
  induction ms generalizing r with
  | nil => exact .refl r
  | cons m ms ih => exact (r.goes_moment m).trans (ih _)

end Running

/-- **What is observed of a loop is a course of occurrences**, with the steps of all moments. -/
theorem observe_course (config : ConsumerConfig) (flag : Bool) (script : Script)
    (ms : List Running.Moment) : (Running.start config flag script).Goes
      (ms.flatMap Running.Moment.steps) (observe config flag script ms).running := by
  have hmoments := (Running.goes_settle _).trans (Running.goes_moments ms
    (Running.start config flag script).settle)
  let last := (Running.moments ms (Running.start config flag script).settle).2
  have hend := hmoments.trans (last.goes_advance (last.now + 1))
  rwa [List.append_nil] at hend

/-! ## Many who share a store -/

namespace Shared

variable {m : Shared}

/-- What a move logs. -/
def logged (m : Shared) : Move → List Log.Entry
  | .turn (.handle e draw meanwhile) =>
    if e ∈ m.fetched then
      (Flickering.handle ⟨m.store, meanwhile⟩ e.command draw).1.entries e.id
    else []
  | .turn _ => []
  | .poll config draws meanwhile => (Flickering.backend.poll config draws ⟨m.store, meanwhile⟩).log

/-- What some moves log. -/
def logs (m : Shared) : List Move → List Log.Entry
  | [] => []
  | x :: xs => m.logged x ++ (m.move x).logs xs

theorem move_consistent (h : Consistent m) (x : Move) : Consistent (m.move x) := by
  -- a poll is some turns
  obtain ⟨turns, hturns⟩ := m.move_turns [x]
  rw [List.foldl_cons, List.foldl_nil] at hturns
  rw [← hturns]
  exact List.foldlRecOn turns turn (motive := Consistent) h fun _ hm t _ => hm.turn t

/-- **One move.** -/
theorem move_accounted (h : Consistent m) (x : Move) :
    Accounted m.store (m.logged x) (m.move x).store := by
  have silent : ∀ {s' : Store}, (∀ o, s'.workspace? o = m.store.workspace? o) →
      Accounted m.store [] s' := fun hsame => .of_same hsame rfl
  cases x with
  | poll config draws meanwhile =>
    exact (Flickering.poll_recorded ⟨m.store, meanwhile⟩ h.sound h.free config draws).2
  | turn t =>
    cases t with
    | insert e =>
      refine silent fun o => ?_
      simp only [move, turn]
      split <;> rfl
    | switch point on => exact silent fun o => rfl
    | fetch eventType limit =>
      refine silent fun o => ?_
      simp only [move, turn, keep]
      split <;> rfl
    | handle e draw meanwhile =>
      simp only [move, turn, logged]
      split
      · next he =>
        exact (Flickering.event_recorded (f := ⟨m.store, meanwhile⟩) rfl h.free
          (h.fetched he)).2.2.2
      · exact .refl _

/-- **Any number of moves.** -/
theorem logs_accounted (h : Consistent m) (moves : List Move) :
    Accounted m.store (m.logs moves) (moves.foldl move m).store := by
  induction moves generalizing m with
  | nil => exact .refl _
  | cons x xs ih => exact (move_accounted h x).trans (ih (move_consistent h x))

end Shared

/-! ## The whole -/

/-- **What is logged where a store is used.** Faults may be switched meanwhile. -/
structure Store.Chronicle (s : Store) : Prop where
  /-- Without a commit that goes well, a command logs nothing. -/
  command : ∀ ahead cmd draw, let r := Flickering.handle ⟨s, ahead⟩ cmd draw
    (∃ err, r.1 = ⟨.error err, []⟩ ∧ s.Same r.2.store) ∨
      ∃ payload p, Payload.decode cmd.payload = .ok payload ∧
        r.1 = ⟨.ok p, [p.effect.report cmd payload p.organizationId]⟩ ∧
        Provisions cmd draw p s r.2.store
  poll : ∀ config draws, let p := backend.poll config draws s
    Journal p.state (s.fetch config.eventType config.batchSize).1 p.result p.log ∧
      Accounted s p.log p.state
  switched : ∀ ahead config draws, let p := Flickering.backend.poll config draws ⟨s, ahead⟩
    Journal p.state.store (Flickering.fetch config.eventType config.batchSize ⟨s, ahead⟩).1
      p.result p.log ∧ Accounted s p.log p.state.store

theorem Store.Sound.chronicle (h : s.Sound) (hfree : s.transaction = none) : s.Chronicle where
  command ahead cmd draw := (Flickering.handle_told ⟨s, ahead⟩ hfree cmd draw).2
  poll config draws := h.poll_recorded (by simp [isOpen, hfree]) config draws
  switched ahead config draws := Flickering.poll_recorded ⟨s, ahead⟩ h hfree config draws

/-- **What the log of a loop tells** after some occurrences. -/
structure Running.Chronicle (start : Running) (xs : List Occurrence) : Prop where
  /-- Each poll logs one record for each outcome, and then one more. -/
  turn : ∀ r', (start.course xs).turn = some r' → ∃ entries,
    r'.entries = (start.course xs).entries ++ entries.map ((start.course xs).now, ·) ∧
      (start.course xs).Reports entries r'
  /-- The records that say so and the workspaces that handlers added correspond, one to one. -/
  workspaces : ∃ ws, ws.Perm (start.added xs) ∧
    start.script.store.Gains (start.course xs).script.store ws ∧
    List.Forall₂ Tells
      (((start.course xs).entries.map Prod.snd).filter Log.Entry.isProvisioned) ws

theorem Running.start_chronicle (config : ConsumerConfig) (flag : Bool) {script : Script}
    (h : script.store.Sound) (xs : List Occurrence) : (start config flag script).Chronicle xs := by
  have hrecorded := course_recorded (r := start config flag script) h xs
  refine ⟨fun r' hr' => ?_, ?_⟩
  · obtain ⟨entries, hlogs⟩ := turn_logs hrecorded.sound hr'
    exact ⟨entries, hlogs.appended, hlogs.reports⟩
  · obtain ⟨entries, ws, hentries, htells, hperm, hgains⟩ := hrecorded.log
    refine ⟨ws, hperm, hgains, ?_⟩
    have hstart : (start config flag script).entries.map Prod.snd = [Log.started config] := rfl
    rw [hentries, hstart, List.singleton_append, List.filter_cons_of_neg (by simp)]
    exact htells

/-- **The log tells what happened.** Let some script have used the store. Where the store is free, a
poll logs one record for each outcome, word by word and in their order, and a transaction that does
not commit logs nothing. A loop that shares the store adds one record to each of its polls, which
agrees with them. And over any course of occurrences, like the one that is observed of the loop, the
records of created workspaces and the workspaces that handlers added correspond one to one. So they
do where batches are worked on at the same time. -/
theorem log_tells (draws : Nat → Draw) (steps : List Step) :
    let script := (Script.steps steps (Script.start draws)).2.2
    (script.store.transaction = none → script.store.Chronicle) ∧
      (∀ config flag,
        (∀ xs, (Running.start config flag script).Chronicle xs) ∧
        ∀ ms, (Running.start config flag script).Goes (ms.flatMap Running.Moment.steps)
          (observe config flag script ms).running) ∧
      ∀ moves, Accounted .empty (Shared.start.logs moves) (Shared.run moves).store := by
  intro script
  have hsound : script.store.Sound := Store.Reachable.sound ⟨draws, steps, rfl⟩
  refine ⟨hsound.chronicle, fun config flag => ?_, Shared.logs_accounted Consistent.start⟩
  exact ⟨Running.start_chronicle config flag hsound, observe_course config flag script⟩

/-- A commit that fails since a fault is switched on inside the transaction: nothing is logged. -/
theorem log_tells_failed_commit :
    let e : Event := { (default : Event) with
      payload := (("\x7b\"organization_id\":" ++
        "\"018f2b1c-7a6d-7c3e-9d2a-0d9b8c7a6e5f\"\x7d").toUTF8).toList }
    let s := (Script.steps [.insert e] (Script.start fun _ => default)).2.2.store
    let r := Flickering.handle ⟨s, [[], [(.commit, true)]]⟩ e.command default
    r.1.log = [] ∧ s.Same r.2.store := by
  intro e s r
  have hfree : s.transaction = none := Option.isNone_iff_eq_none.mp (by decide +kernel)
  have hfails : r.1.result.isOk = false := by decide +kernel
  rcases ((log_tells (fun _ => default) [.insert e]).1 hfree).command _ e.command default with
    ⟨err, herr, hsame⟩ | ⟨payload, p, -, hok, -⟩
  · exact ⟨congrArg Handled.log herr, hsame⟩
  · have hresult : r.1.result = .ok p := congrArg Handled.result hok
    rw [hresult] at hfails
    cases hfails

end OutboxProvisioning
