import OutboxProvisioning.Proofs.Calm
import OutboxProvisioning.Proofs.Finality
import OutboxProvisioning.Proofs.Verdict

/-!
# Which failures another attempt can mend

An attempt on a stored event has failed. Others go on: faults are switched, polls are taken, commands
handled, other events put into the store. Can an attempt on the same event ever succeed?

* `isRetryable_of_subject`, `isRetryable_of_obstacle`: an error is retryable just when the payload is
  not at fault.
* `Script.attempt_mended`: a pending event is provisioned once all faults are off.
* `Script.attempt_hopeless`: a published event, or one with a bad payload, never is, whatever is done.
* `retry_succeeds_iff`: **another attempt can succeed just when the error is retryable and the event
  is still pending.**
-/

namespace OutboxProvisioning

open History (after)

variable {x : Script} {e : Event} {o : OrganizationId} {p : Payload} {err : ProvisioningError}
  {cmd : Command} {s : Store} {id : EventId}

/-! ## What errors say -/

theorem isRetryable_of_subject (h : cmd.subject = .error err) : err.isRetryable = false := by
  unfold Command.subject at h
  split at h
  · next hdecode =>
    cases h
    rcases Payload.decode_error hdecode with ⟨reason, rfl⟩ | rfl <;> rfl
  · next p _ =>
    cases ho : p.organization with
    | ok o => simp [ho, Except.map] at h
    | error err' =>
      obtain ⟨reason, rfl⟩ := Payload.organization_error ho
      rw [ho] at h
      cases h
      rfl

theorem isRetryable_of_obstacle (h : s.obstacle? id o = some err) : err.isRetryable = true := by
  unfold Store.obstacle? at h
  split at h
  · cases h
    rfl
  · split at h
    · cases h
      rfl
    · split at h
      · cases h
        rfl
      · cases h

/-! ## Attempts -/

/-- What comes of a step that handles a stored event. -/
def Script.attempt (x : Script) (e : Event) : Answer := (x.step false (.handle e.command)).answer

/-- A step that does not put another event in the place of this one: it switches a fault, takes a
poll, handles a command or inserts an event of another identifier. -/
def Step.Spares (id : EventId) : Step → Prop
  | .fail _ _ | .poll _ | .handle _ | .redeliver _ => True
  | .insert e => e.id ≠ id
  | _ => False

namespace Script

/-- A payload that names no organization is found out at once. -/
theorem attempt_of_error (h : e.command.subject = .error err) (x : Script) :
    x.attempt e = .handled (.error err) := by
  have hfree : (x.store.isOpen && x.needsStore (.handle e.command)) = false := by
    simp [needsStore, h, Except.isOk, Except.toBool]
  rw [attempt, step_of_free hfree]
  simp only [perform, Script.handle, Store.handle, handle_run_error h]

/-- With one that does, the command waits until the store is free. -/
theorem attempt_of_ok (h : e.command.subject = .ok (p, o)) (x : Script) :
    x.attempt e = if x.store.transaction = none
      then .handled (x.store.handle e.command x.draw).1.result else .blocked := by
  have hneeds : x.needsStore (.handle e.command) = true := by
    simp [needsStore, h, Except.isOk, Except.toBool]
  rw [attempt]
  cases ht : x.store.transaction with
  | none =>
    rw [step_of_free (by simp [Store.isOpen, ht])]
    rfl
  | some t =>
    rw [step_of_blocked (by simp [Store.isOpen, ht]) hneeds]
    rfl

theorem attempt_of_obstacle (hfree : x.store.transaction = none)
    (hsubject : e.command.subject = .ok (p, o)) (herr : x.store.obstacle? e.id o = some err) :
    x.attempt e = .handled (.error err) := by
  rw [attempt_of_ok hsubject, if_pos hfree, Store.handle_of_obstacle hfree hsubject herr]

/-- **A failure that is not the payload's** has found the store free, and is retryable. -/
theorem attempt_failed (hsubject : e.command.subject = .ok (p, o))
    (h : x.attempt e = .handled (.error err)) :
    x.store.transaction = none ∧ err.isRetryable = true := by
  have hattempt := attempt_of_ok hsubject x
  rw [h] at hattempt
  split at hattempt
  · next hfree =>
    refine ⟨hfree, ?_⟩
    cases hobstacle : x.store.obstacle? e.command.eventId o with
    | none =>
      obtain ⟨e', -, -, hok⟩ := Store.handle_of_clear hfree hsubject hobstacle x.draw
      rw [hok] at hattempt
      cases hattempt
    | some err' =>
      cases h.symm.trans (attempt_of_obstacle hfree hsubject hobstacle)
      exact isRetryable_of_obstacle hobstacle
  · cases hattempt

/-- An attempt that succeeds finds the event pending. -/
theorem attempt_inv {r : Provisioned} (h : x.attempt e = .handled (.ok r)) :
    ∃ e', x.store.event? e.id = some e' ∧ e'.isPending = true := by
  rcases e.command.subject_cases with ⟨p, o, -, -, hsubject⟩ | ⟨err, hsubject⟩
  · rw [attempt_of_ok hsubject] at h
    split at h
    · next hfree =>
      rcases x.store.handle_inv hfree e.command x.draw with ⟨err, log, herr⟩ | ⟨e', _, _, he', hp, -⟩
      · rw [herr] at h
        cases h
      · exact ⟨e', he', hp⟩
    · cases h
  · rw [attempt_of_error hsubject] at h
    cases h

/-- Every fault that can stop a command is switched off. -/
def mending : List Step :=
  [.fail .createWorkspace false, .fail .markPublished false, .fail .commit false]

/-- **A pending event is provisioned once all faults are off.** -/
theorem attempt_mended (hfree : x.store.transaction = none)
    (hsubject : e.command.subject = .ok (p, o)) (he : x.store.event? e.id = some e)
    (hpending : e.isPending = true) :
    ∃ r, (Script.steps mending x).2.2.attempt e = .handled (.ok r) := by
  let y := (Script.steps mending x).2.2
  have hstore : y.store = { x.store with faults := ⟨x.store.faults.fetch, false, false, false⟩ } := by
    simp only [y, mending, Script.steps, step, needsStore, Bool.and_false]
    rfl
  have hy : y.store.transaction = none := by rw [hstore, hfree]
  have hclear : y.store.obstacle? e.command.eventId o = none := by
    have hpublishable : y.store.unpublishable? e.id = none :=
      Store.unpublishable?_eq_none_iff.mpr ⟨by rw [hstore], e, by rw [hstore]; exact he, hpending⟩
    have hcreate : y.store.faults.createWorkspace = false := by rw [hstore]
    have hcommit : y.store.faults.commit = false := by rw [hstore]
    change y.store.obstacle? e.id o = none
    simp [Store.obstacle?, hpublishable, hcreate, hcommit]
  obtain ⟨e', -, -, hhandle⟩ := Store.handle_of_clear hy hsubject hclear y.draw
  have hresult := attempt_of_ok hsubject y
  rw [if_pos hy, hhandle] at hresult
  exact ⟨_, hresult⟩

/-- A stored event after more steps: it is the same, or was pending and has been published. -/
theorem event_later {draws : Nat → Draw} {steps : List Step}
    (hx : x = (Script.steps steps (start draws)).2.2) (more : List Step)
    (he : x.store.event? id = some e) (hmore : ∀ e', .insert e' ∈ more → e'.id ≠ id) :
    (Script.steps more x).2.2.store.event? id = some e ∨ e.isPending = true ∧
      ∃ time, (Script.steps more x).2.2.store.event? id = some (e.publishedFrom time) := by
  -- both stores are those of one history
  have hpast : x.store = (after (trace steps (start draws))).store := by
    rw [hx, History.after_store]
    exact store_steps steps (start draws)
  have hlater : (Script.steps more x).2.2.store =
      (after (trace steps (start draws) ++ trace more x)).store := by
    rw [store_steps, hpast, History.after_store, History.after_store, List.foldl_append]
  rw [hpast] at he
  rw [hlater]
  exact History.event_later _ _ he fun e' he' => hmore e' (insert_mem_trace he')

/-- **A published event is never provisioned again**, whatever steps are taken, if none of them puts
another event in its place. -/
theorem attempt_hopeless {draws : Nat → Draw} {steps : List Step}
    (hx : x = (Script.steps steps (start draws)).2.2) (he : x.store.event? e.id = some e)
    (hpublished : e.isPending = false) {later : List Step}
    (hlater : ∀ e', .insert e' ∈ later → e'.id ≠ e.id) (r : Provisioned) :
    (Script.steps later x).2.2.attempt e ≠ .handled (.ok r) := by
  intro h
  obtain ⟨e', he', hpending⟩ := attempt_inv h
  rcases event_later hx later he hlater with hsame | ⟨hpending', -⟩
  · cases hsame.symm.trans he'
    rw [hpublished] at hpending
    cases hpending
  · rw [hpublished] at hpending'
    cases hpending'

end Script

theorem Step.Spares.not_insert {later : List Step} (h : ∀ step ∈ later, step.Spares id) (e' : Event)
    (he' : .insert e' ∈ later) : e'.id ≠ id := h _ he'

theorem Event.isRejected_eq_false_iff : e.isRejected = false ↔ e.command.subject.isOk = true := by
  cases hr : e.isRejected with
  | true =>
    obtain ⟨err, herr⟩ := Event.subject_of_rejected hr
    simp [herr, Except.isOk, Except.toBool]
  | false =>
    obtain ⟨p, o, hok⟩ := Event.subject_of_accepted hr
    simp [hok, Except.isOk, Except.toBool]

/-- **Another attempt can succeed just when the error is retryable and the event is still pending.**
An attempt on a stored event with its own command has failed. The error is retryable just when the
payload names an organization. A sequence of steps that spares the event leads to an attempt that
succeeds just when, besides, the event was not published yet; for one that was, the error is
retryable and all the same no attempt succeeds any more. -/
theorem retry_succeeds_iff (draws : Nat → Draw) (steps : List Step) {id : EventId} {e : Event}
    {err : ProvisioningError} :
    let x := (Script.steps steps (Script.start draws)).2.2
    x.store.event? id = some e → x.attempt e = .handled (.error err) →
      (err.isRetryable = true ↔ e.isRejected = false) ∧
      ((∃ later, (∀ step ∈ later, step.Spares id) ∧
          ∃ r, (Script.steps later x).2.2.attempt e = .handled (.ok r)) ↔
        err.isRetryable = true ∧ e.isPending = true) := by
  intro x he herr
  have hsound : x.store.Sound := Store.Reachable.sound ⟨draws, steps, rfl⟩
  obtain rfl : e.id = id := hsound.id he
  rcases e.command.subject_cases with ⟨p, o, -, -, hsubject⟩ | ⟨err', hsubject⟩
  · -- the payload is good, so something stood in the way
    obtain ⟨hfree, hretryable⟩ := Script.attempt_failed hsubject herr
    have haccepted : e.isRejected = false := by
      simp [Event.isRejected_eq_false_iff, hsubject, Except.isOk, Except.toBool]
    refine ⟨iff_of_true hretryable haccepted, ?_, ?_⟩
    · rintro ⟨later, hlater, r, hr⟩
      refine ⟨hretryable, ?_⟩
      by_contra hp
      exact Script.attempt_hopeless rfl he (Bool.eq_false_iff.mpr hp)
        (Step.Spares.not_insert hlater) r hr
    · rintro ⟨-, hpending⟩
      exact ⟨Script.mending, by simp [Script.mending, Step.Spares],
        Script.attempt_mended hfree hsubject he hpending⟩
  · -- the payload is bad, and stays so
    cases herr.symm.trans (Script.attempt_of_error hsubject x)
    have hfinal := isRetryable_of_subject hsubject
    have hrejected : e.isRejected ≠ false := by
      simp [Event.isRejected_eq_false_iff, hsubject, Except.isOk, Except.toBool]
    refine ⟨iff_of_false (by simp [hfinal]) hrejected, ?_, fun h => ?_⟩
    · rintro ⟨later, -, r, hr⟩
      cases hr.symm.trans (Script.attempt_of_error hsubject _)
    · rw [hfinal] at h
      cases h.1

/-- An event whose workspace cannot be created at first. -/
theorem retry_succeeds_after_fault :
    let e : Event := { (default : Event) with
      payload := (("\x7b\"organization_id\":" ++
        "\"018f2b1c-7a6d-7c3e-9d2a-0d9b8c7a6e5f\"\x7d").toUTF8).toList }
    let x := (Script.steps [.insert e, .fail .createWorkspace true]
      (Script.start fun _ => default)).2.2
    ∃ err, x.attempt e = .handled (.error err) ∧
      ∃ later, (∀ step ∈ later, step.Spares e.id) ∧
        ∃ r, (Script.steps later x).2.2.attempt e = .handled (.ok r) := by
  intro e x
  let o : OrganizationId := ⟨⟨0x018f2b1c7a6d7c3e9d2a0d9b8c7a6e5f⟩⟩
  have hsubject : e.command.subject =
      .ok (⟨"018f2b1c-7a6d-7c3e-9d2a-0d9b8c7a6e5f", "", "", "", "", ""⟩, o) :=
    Command.subject_of_ok (by decide +kernel) (by decide +kernel)
  have hfree : x.store.transaction = none := Option.isNone_iff_eq_none.mp (by decide +kernel)
  have hobstacle : x.store.obstacle? e.id o =
      some (.resourceCreation (Store.creationFault o).text) := by decide +kernel
  have herr := Script.attempt_of_obstacle hfree hsubject hobstacle
  have hstored : x.store.event? e.id = some e := by decide +kernel
  exact ⟨_, herr, (retry_succeeds_iff (fun _ => default) [.insert e, .fail .createWorkspace true]
    hstored herr).2.mpr ⟨rfl, rfl⟩⟩

/-- The same event once it has been published: the error is retryable, and no attempt succeeds any
more. -/
theorem retry_of_published :
    let e : Event := { (default : Event) with
      payload := (("\x7b\"organization_id\":" ++
        "\"018f2b1c-7a6d-7c3e-9d2a-0d9b8c7a6e5f\"\x7d").toUTF8).toList }
    let x := (Script.steps [.insert e, .handle e.command] (Script.start fun _ => default)).2.2
    let published := e.publishedFrom default
    x.store.event? e.id = some published ∧
      ∃ err, x.attempt published = .handled (.error err) ∧ err.isRetryable = true ∧
        ∀ later, (∀ step ∈ later, step.Spares e.id) →
          ∀ r, (Script.steps later x).2.2.attempt published ≠ .handled (.ok r) := by
  intro e x published
  let o : OrganizationId := ⟨⟨0x018f2b1c7a6d7c3e9d2a0d9b8c7a6e5f⟩⟩
  have hsubject : published.command.subject =
      .ok (⟨"018f2b1c-7a6d-7c3e-9d2a-0d9b8c7a6e5f", "", "", "", "", ""⟩, o) :=
    Command.subject_of_ok (by decide +kernel) (by decide +kernel)
  have hfree : x.store.transaction = none := Option.isNone_iff_eq_none.mp (by decide +kernel)
  have hstored : x.store.event? e.id = some published := by decide +kernel
  have hobstacle : x.store.obstacle? published.id o = some (.markPublished
      ("[EVENT_ALREADY_PUBLISHED] Event already published " ++
        "(event_id=00000000-0000-0000-0000-000000000000)")) := by decide +kernel
  exact ⟨hstored, _, Script.attempt_of_obstacle hfree hsubject hobstacle, rfl, fun later hlater =>
    Script.attempt_hopeless rfl hstored rfl (Step.Spares.not_insert hlater)⟩

end OutboxProvisioning
