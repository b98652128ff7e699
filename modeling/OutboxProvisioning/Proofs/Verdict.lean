import Mathlib.Order.Basic
import OutboxProvisioning.Store.Script
import OutboxProvisioning.Proofs.Staging

/-!
# What comes of one command

A command for a free store can be judged beforehand, from what the store holds and which faults are
on. First the payload has to name an organization; then a workspace, the publication and the commit
can each stand in the way, in this order.

* `Store.obstacle?`: the first thing that stands in the way of a command.
* `Store.provisioned`: the store after a command with nothing in its way.
* `handle_inv`: one of the two is all that a command can do to a store.
* `handle_verdict`: **the result of a command and the store after it.**
-/

namespace OutboxProvisioning

variable {s : Store} {t : Staged} {event : EventId} {o : OrganizationId} {draw : Draw}
  {cmd : Command} {payload : Payload}

namespace Store

/-- Why no workspace can be created for an organization while that is made to fail. -/
def creationFault (o : OrganizationId) : DomainError :=
  (DomainError.database "Simulated workspace insert failure").withDetail "organization_id"
    (toString o)

/-- Why an event cannot be published: that is made to fail, or the event is not stored, or it is
published already. -/
def unpublishable? (s : Store) (id : EventId) : Option DomainError :=
  let named (e : DomainError) := e.withDetail "event_id" (toString id)
  if s.faults.markPublished then some (named (.database "Simulated publish update failure"))
  else
    match s.event? id with
    | none => some (named (.plain .eventNotFound "Event not found"))
    | some e =>
      if e.published then some (named (.plain .eventAlreadyPublished "Event already published"))
      else none

/-- Why nothing can be committed while that is made to fail. -/
def commitFault : DomainError := .database "Simulated commit failure"

/-- **The first thing in the way of a command** whose payload names an organization. A fault of
creating workspaces does not matter to an organization that has one. -/
def obstacle? (s : Store) (event : EventId) (o : OrganizationId) : Option ProvisioningError :=
  if s.workspace? o = none ∧ s.faults.createWorkspace = true then
    some (.resourceCreation (creationFault o).text)
  else
    match s.unpublishable? event with
    | some e => some (.markPublished e.text)
    | none => if s.faults.commit then some (.transaction commitFault.text) else none

/-- What a command does for an organization: nothing, if it has a workspace. -/
def effectFor (s : Store) (o : OrganizationId) (draw : Draw) : Effect :=
  if s.workspace? o = none then .created draw.workspaceId else .alreadyProvisioned

/-- The workspaces that a command adds: one, if the organization has none. -/
def additions (s : Store) (o : OrganizationId) (draw : Draw) : Table OrganizationId Workspace :=
  if s.workspace? o = none then Table.empty.insert o ⟨draw.workspaceId, o, draw.now⟩ else .empty

/-- **The store after a command with nothing in its way**: its event is published, and the
organization has a workspace of the same time if it had none. -/
def provisioned (s : Store) (event : EventId) (e : Event) (o : OrganizationId) (draw : Draw) :
    Store :=
  { s with
    events := s.events.insert event (e.publishedFrom draw.now)
    workspaces := s.workspaces.insertAll (s.additions o draw) }

/-- The store in the hands of a transaction. -/
def holding (s : Store) (t : Staged) : Store := { s with transaction := some t }

/-! ### The calls of a transaction -/

theorem unpublishable?_eq_none_iff : s.unpublishable? event = none ↔
    s.faults.markPublished = false ∧ ∃ e, s.event? event = some e ∧ e.isPending = true := by
  unfold unpublishable? Event.isPending
  cases s.faults.markPublished with
  | true => simp
  | false =>
    cases s.event? event with
    | none => simp
    | some e => cases e.published <;> simp

theorem stagePublication_of_some {err : DomainError} (h : s.unpublishable? event = some err)
    (t : Staged) (now : Instant) : s.stagePublication t event now = .error err := by
  unfold unpublishable? at h
  unfold stagePublication Event.isPending
  cases hf : s.faults.markPublished with
  | true => simpa [hf] using h
  | false =>
    cases he : s.event? event with
    | none => simpa [hf, he] using h
    | some e => cases hp : e.published <;> simp_all

/-- Flags an event for which nothing has been staged yet. -/
theorem publish_run (hfresh : t.published.find? event = none) (now : Instant) (effect : Effect) :
    (publish event now effect).run answer (s.holding t) =
      match s.unpublishable? event with
      | some e => (.error (.markPublished e.text), s.holding t)
      | none => (.ok effect, s.holding { t with published := t.published.insert event now }) := by
  have hopen : (s.holding t).transaction = some t := rfl
  cases hu : s.unpublishable? event with
  | some e =>
    have hstage := stagePublication_of_some (s := s.holding t) hu t now
    have hmark : answer (.markPublished event now) (s.holding t) = (.error e, s.holding t) := by
      rw [answer_mark]
      exact stage_error hopen hstage
    simp only [publish, Program.run, hmark]
  | none =>
    obtain ⟨hfault, hpending⟩ := unpublishable?_eq_none_iff.mp hu
    have hstage : (s.holding t).stagePublication t event now =
        .ok { t with published := t.published.insert event now } :=
      stagePublication_eq_ok_iff.mpr ⟨hfault, hpending, hfresh, rfl⟩
    have hmark : answer (.markPublished event now) (s.holding t) =
        (.ok (), s.holding { t with published := t.published.insert event now }) := by
      rw [answer_mark]
      exact stage_ok hopen hstage
    simp only [publish, Program.run, hmark]

/-- A workspace is created for an organization that has none, unless that is made to fail. -/
theorem create_run (hw : s.workspace? o = none) (w : Workspace) (ho : w.organizationId = o) :
    answer (.createWorkspace w) (s.holding default) =
      if s.faults.createWorkspace then (.error (creationFault o), s.holding default)
      else (.ok (), s.holding ⟨Table.empty.insert o w, .empty⟩) := by
  subst ho
  have hopen : (s.holding default).transaction = some default := rfl
  rw [answer_create]
  cases hf : s.faults.createWorkspace with
  | true =>
    have hstage : (s.holding default).stageWorkspace default w =
        .error (creationFault w.organizationId) := if_pos hf
    exact stage_error hopen hstage
  | false =>
    have hstage : (s.holding default).stageWorkspace default w =
        .ok ⟨Table.empty.insert w.organizationId w, .empty⟩ :=
      stageWorkspace_eq_ok_iff.mpr ⟨hf, hasWorkspace_eq_false_iff.mpr ⟨hw, rfl⟩, rfl⟩
    exact stage_ok hopen hstage

/-- **The body of a transaction** in which nothing is staged yet. -/
theorem apply_run (s : Store) (event : EventId) (o : OrganizationId) (draw : Draw) :
    (apply event o draw).run answer (s.holding default) =
      if s.workspace? o = none ∧ s.faults.createWorkspace = true then
        (.error (.resourceCreation (creationFault o).text), s.holding default)
      else
        match s.unpublishable? event with
        | some e => (.error (.markPublished e.text), s.holding ⟨s.additions o draw, .empty⟩)
        | none => (.ok (s.effectFor o draw),
            s.holding ⟨s.additions o draw, Table.empty.insert event draw.now⟩) := by
  have hexists : answer (.workspaceExists o) (s.holding default) =
      (.ok (s.hasWorkspace default o), s.holding default) := answer_exists rfl o
  have hfresh : Table.empty.find? (α := Instant) event = none := rfl
  cases hw : s.workspace? o with
  | some w =>
    have hhas : s.hasWorkspace default o = true := by
      rw [hasWorkspace, Table.contains_iff.mpr ⟨w, hw⟩, Bool.true_or]
    have heffect : s.effectFor o draw = .alreadyProvisioned := by simp [effectFor, hw]
    have hadd : s.additions o draw = .empty := by simp [additions, hw]
    have hpublish := publish_run (s := s) (t := ⟨.empty, .empty⟩) hfresh draw.now
      .alreadyProvisioned
    simp only [apply, Program.run, hexists, hhas, heffect, hadd]
    rw [if_neg (by simp)]
    exact hpublish
  | none =>
    have hhas : s.hasWorkspace default o = false := hasWorkspace_eq_false_iff.mpr ⟨hw, rfl⟩
    have heffect : s.effectFor o draw = .created draw.workspaceId := by simp [effectFor, hw]
    have hadd : s.additions o draw =
        Table.empty.insert o ⟨draw.workspaceId, o, draw.now⟩ := by simp [additions, hw]
    have hcreate := create_run hw ⟨draw.workspaceId, o, draw.now⟩ rfl
    simp only [apply, Program.run, hexists, hhas, hcreate, heffect, hadd, true_and]
    cases hf : s.faults.createWorkspace with
    | true => rfl
    | false => exact publish_run hfresh draw.now (.created draw.workspaceId)

/-- The end of a transaction whose body failed: nothing is left of it. -/
theorem settle_run_error (h : s.transaction = none) (cmd : Command) (payload : Payload)
    (o : OrganizationId) (e : ProvisioningError) (t : Staged) :
    (settle cmd payload o (.error e)).run answer (s.holding t) = (⟨.error e, []⟩, s) := by
  obtain ⟨events, workspaces, faults, transaction⟩ := s
  subst h
  rfl

/-- What is staged for an event comes to the store with a commit that goes well. -/
theorem commit_run {e : Event} (h : s.transaction = none) (he : s.event? event = some e)
    (hp : e.isPending = true) (o : OrganizationId) (draw : Draw) :
    answer .commit (s.holding ⟨s.additions o draw, Table.empty.insert event draw.now⟩) =
      if s.faults.commit then (.error commitFault, s)
      else (.ok (), s.provisioned event e o draw) := by
  have hfind : s.events.find? event = some e := he
  have hmarked : publishAll (Table.empty.insert event draw.now).entries s.events =
      (.ok (), s.events.insert event (e.publishedFrom draw.now)) := by
    have hentries : (Table.empty.insert event draw.now).entries = [(event, draw.now)] := rfl
    simp only [hentries, publishAll, hfind, markPublished_of_pending hp]
  have hclosed : { s with transaction := none } = s := by rw [← h]
  rw [answer_commit rfl, commit]
  cases hf : s.faults.commit with
  | true => simpa [holding, hf, commitFault] using hclosed
  | false => simp [holding, hf, hmarked, provisioned, h]

/-- The end of a transaction whose body went well. -/
theorem settle_run_ok {e : Event} (h : s.transaction = none) (he : s.event? cmd.eventId = some e)
    (hp : e.isPending = true) (payload : Payload) (o : OrganizationId) (draw : Draw)
    (effect : Effect) :
    (settle cmd payload o (.ok effect)).run answer
        (s.holding ⟨s.additions o draw, Table.empty.insert cmd.eventId draw.now⟩) =
      if s.faults.commit then (⟨.error (.transaction commitFault.text), []⟩, s)
      else (⟨.ok ⟨o, effect⟩, [effect.report cmd payload o]⟩,
        s.provisioned cmd.eventId e o draw) := by
  simp only [settle, Program.run, commit_run h he hp]
  cases s.faults.commit <;> rfl

/-! ### The whole command -/

/-- A command whose payload names an organization. -/
theorem handle_run {r : Except ProvisioningError Effect} {s' : Store} (h : s.transaction = none)
    (hsubject : cmd.subject = .ok (payload, o))
    (hbody : (apply cmd.eventId o draw).run answer (s.holding default) = (r, s')) :
    s.handle cmd draw = (settle cmd payload o r).run answer s' := by
  have hbegin : answer .beginTransaction s = (.ok (), s.holding default) := answer_begin h
  simp only [Store.handle, OutboxProvisioning.handle, hsubject, Program.run, hbegin,
    Program.run_bind, hbody]

/-- **A command with something in its way** fails with that, and leaves the store as it was. -/
theorem handle_of_obstacle {err : ProvisioningError} (h : s.transaction = none)
    (hsubject : cmd.subject = .ok (payload, o)) (herr : s.obstacle? cmd.eventId o = some err)
    (draw : Draw) : s.handle cmd draw = (⟨.error err, []⟩, s) := by
  have hbody := apply_run s cmd.eventId o draw
  unfold obstacle? at herr
  by_cases hcreate : s.workspace? o = none ∧ s.faults.createWorkspace = true
  · rw [if_pos hcreate] at hbody herr
    cases herr
    rw [handle_run h hsubject hbody, settle_run_error h]
  · rw [if_neg hcreate] at hbody herr
    cases hu : s.unpublishable? cmd.eventId with
    | some e =>
      simp only [hu, Option.some.injEq] at hbody herr
      subst herr
      rw [handle_run h hsubject hbody, settle_run_error h]
    | none =>
      -- all is staged, so what is in the way is the fault of the commit
      obtain ⟨-, e, he, hp⟩ := unpublishable?_eq_none_iff.mp hu
      simp only [hu] at hbody herr
      split at herr
      · rename_i hcommit
        cases herr
        rw [handle_run h hsubject hbody, settle_run_ok h he hp, if_pos hcommit]
      · cases herr

/-- **A command with nothing in its way** is carried out. -/
theorem handle_of_clear (h : s.transaction = none) (hsubject : cmd.subject = .ok (payload, o))
    (hclear : s.obstacle? cmd.eventId o = none) (draw : Draw) :
    ∃ e, s.event? cmd.eventId = some e ∧ e.isPending = true ∧
      s.handle cmd draw = (⟨.ok ⟨o, s.effectFor o draw⟩,
        [(s.effectFor o draw).report cmd payload o]⟩, s.provisioned cmd.eventId e o draw) := by
  have hbody := apply_run s cmd.eventId o draw
  unfold obstacle? at hclear
  by_cases hcreate : s.workspace? o = none ∧ s.faults.createWorkspace = true
  · rw [if_pos hcreate] at hclear
    cases hclear
  · rw [if_neg hcreate] at hbody hclear
    cases hu : s.unpublishable? cmd.eventId with
    | some e => simp [hu] at hclear
    | none =>
      obtain ⟨-, e, he, hp⟩ := unpublishable?_eq_none_iff.mp hu
      simp only [hu] at hbody hclear
      split at hclear
      · cases hclear
      · rename_i hcommit
        refine ⟨e, he, hp, ?_⟩
        rw [handle_run h hsubject hbody, settle_run_ok h he hp, if_neg hcommit]

/-- **All that a command can do to a store**: it fails and leaves the store as it was, or it is
carried out. -/
theorem handle_inv (h : s.transaction = none) (cmd : Command) (draw : Draw) :
    (∃ err log, s.handle cmd draw = (⟨.error err, log⟩, s)) ∨
      ∃ e o log, s.event? cmd.eventId = some e ∧ e.isPending = true ∧
        s.handle cmd draw = (⟨.ok ⟨o, s.effectFor o draw⟩, log⟩,
          s.provisioned cmd.eventId e o draw) := by
  rcases cmd.subject_cases with ⟨payload, o, -, -, hsubject⟩ | ⟨err, hsubject⟩
  · cases hobstacle : s.obstacle? cmd.eventId o with
    | some err => exact .inl ⟨err, [], handle_of_obstacle h hsubject hobstacle draw⟩
    | none =>
      obtain ⟨e, he, hp, hhandle⟩ := handle_of_clear h hsubject hobstacle draw
      exact .inr ⟨e, o, _, he, hp, hhandle⟩
  · exact .inl ⟨err, [], handle_run_error hsubject draw answer s⟩

/-! ### The store afterwards -/

theorem provisioned_event (s : Store) (event : EventId) (e : Event) (o : OrganizationId)
    (draw : Draw) (id : EventId) : (s.provisioned event e o draw).event? id =
      if id = event then some (e.publishedFrom draw.now) else s.event? id :=
  Table.find?_insert s.events event id _

theorem provisioned_workspace (s : Store) (event : EventId) (e : Event) (o : OrganizationId)
    (draw : Draw) (o' : OrganizationId) : (s.provisioned event e o draw).workspace? o' =
      if s.workspace? o = none ∧ o' = o then some ⟨draw.workspaceId, o, draw.now⟩
      else s.workspace? o' := by
  have hempty : (Table.empty : Table OrganizationId Workspace).find? o' = none := rfl
  rw [workspace?, provisioned, Table.find?_insertAll, additions]
  by_cases hw : s.workspace? o = none
  · by_cases ho : o' = o <;> simp [hw, ho, Table.find?_insert, hempty]
    rfl
  · simp [hw, hempty]
    rfl

end Store

/-- What cannot be decoded is no JSON of the right shape, or leaves the organization blank. -/
theorem Payload.decode_error {bytes : Bytes} {e : ProvisioningError}
    (h : Payload.decode bytes = .error e) :
    (∃ reason, e = .decode reason) ∨ e = .emptyField "organization_id" := by
  unfold Payload.decode at h
  split at h
  · cases h
    exact .inl ⟨_, rfl⟩
  · unfold Payload.ofRaw at h
    simp only at h
    split at h
    · cases h
      exact .inr rfl
    · cases h

theorem Payload.organization_error {p : Payload} {e : ProvisioningError}
    (h : p.organization = .error e) : ∃ reason, e = .identifierFormat p.organizationId reason := by
  unfold Payload.organization at h
  split at h
  · cases h
  · cases h
    exact ⟨_, rfl⟩

/-- **The result of a command for a free store, and the store after it.** A payload that names no
organization is found out whatever the store is. After that the first obstacle counts, and leaves
the store as it was. With none the event is published, the organization is given a workspace of the
same time if it had none, and all else stays. -/
theorem handle_verdict {s : Store} (hfree : s.transaction = none) (cmd : Command) (draw : Draw) :
    (∀ e, Payload.decode cmd.payload = .error e →
      ((∃ reason, e = .decode reason) ∨ e = .emptyField "organization_id") ∧
        ∀ s' : Store, s'.handle cmd draw = (⟨.error e, []⟩, s')) ∧
    (∀ p e, Payload.decode cmd.payload = .ok p → p.organization = .error e →
      (∃ reason, e = .identifierFormat p.organizationId reason) ∧
        ∀ s' : Store, s'.handle cmd draw = (⟨.error e, []⟩, s')) ∧
    ∀ p o, Payload.decode cmd.payload = .ok p → p.organization = .ok o →
      let r := s.handle cmd draw
      match s.obstacle? cmd.eventId o with
      | some e => r.1.result = .error e ∧ r.2 = s
      | none =>
        r.1.result = .ok ⟨o,
          if s.workspace? o = none then .created draw.workspaceId else .alreadyProvisioned⟩ ∧
        (∃ e, s.event? cmd.eventId = some e ∧ e.isPending = true ∧ ∀ id, r.2.event? id =
          if id = cmd.eventId then some (e.publishedFrom draw.now) else s.event? id) ∧
        (∀ o', r.2.workspace? o' =
          if s.workspace? o = none ∧ o' = o then some ⟨draw.workspaceId, o, draw.now⟩
          else s.workspace? o') ∧
        r.2.faults = s.faults ∧ r.2.transaction = none := by
  refine ⟨?_, ?_, ?_⟩
  · intro e he
    have hsubject := Command.subject_of_error (.inl he)
    exact ⟨Payload.decode_error he, fun s' => handle_run_error hsubject draw Store.answer s'⟩
  · intro p e hp he
    have hsubject := Command.subject_of_error (.inr ⟨p, hp, he⟩)
    exact ⟨Payload.organization_error he, fun s' => handle_run_error hsubject draw Store.answer s'⟩
  · intro p o hp ho r
    have hsubject := Command.subject_of_ok hp ho
    cases hobstacle : s.obstacle? cmd.eventId o with
    | some e =>
      have hr : r = (⟨.error e, []⟩, s) := Store.handle_of_obstacle hfree hsubject hobstacle draw
      rw [hr]
      exact ⟨rfl, rfl⟩
    | none =>
      obtain ⟨e, he, hpending, hhandle⟩ := Store.handle_of_clear hfree hsubject hobstacle draw
      have hr : r = _ := hhandle
      rw [hr]
      exact ⟨rfl, ⟨e, he, hpending, Store.provisioned_event s _ e o draw⟩,
        Store.provisioned_workspace s _ e o draw, rfl, hfree⟩

/-- A second event of one organization, while no workspace can be created: it needs none. A third one
that was never stored is found out when it is to be published, and its workspace is given up. -/
theorem handle_verdict_masked :
    let payload := fun organization : String =>
      (("\x7b\"organization_id\":\"" ++ organization ++ "\"\x7d").toUTF8).toList
    let first : Event := { (default : Event) with
      id := ⟨⟨1⟩⟩
      payload := payload "018f2b1c-7a6d-7c3e-9d2a-0d9b8c7a6e5f" }
    let second : Event := { first with id := ⟨⟨2⟩⟩ }
    let missing : Command := ⟨⟨⟨3⟩⟩, payload "00000000-0000-0000-0000-000000000003"⟩
    let s := (Script.steps [.insert first, .handle first.command, .insert second]
      (Script.start fun _ => default)).2.2.store
    let faulty := s.setFault .createWorkspace true
    (faulty.handle second.command default).1.result =
        .ok ⟨⟨⟨0x018f2b1c7a6d7c3e9d2a0d9b8c7a6e5f⟩⟩, .alreadyProvisioned⟩ ∧
      (∃ reason, (s.handle missing default).1.result = .error (.markPublished reason)) ∧
      (s.handle missing default).2 = s := by
  intro payload first second missing s faulty
  have hs : s.transaction = none := Option.isNone_iff_eq_none.mp (by decide +kernel)
  have hfaulty : faulty.transaction = none := hs
  have hsecond := (handle_verdict hfaulty second.command default).2.2
    ⟨"018f2b1c-7a6d-7c3e-9d2a-0d9b8c7a6e5f", "", "", "", "", ""⟩
    ⟨⟨0x018f2b1c7a6d7c3e9d2a0d9b8c7a6e5f⟩⟩ (by decide +kernel) (by decide +kernel)
  have hmissing := (handle_verdict hs missing default).2.2
    ⟨"00000000-0000-0000-0000-000000000003", "", "", "", "", ""⟩ ⟨⟨3⟩⟩
    (by decide +kernel) (by decide +kernel)
  have hclear : faulty.obstacle? second.command.eventId
      ⟨⟨0x018f2b1c7a6d7c3e9d2a0d9b8c7a6e5f⟩⟩ = none := by decide +kernel
  have hworkspace : faulty.workspace? ⟨⟨0x018f2b1c7a6d7c3e9d2a0d9b8c7a6e5f⟩⟩ ≠ none := by
    decide +kernel
  have hunknown : s.obstacle? missing.eventId ⟨⟨3⟩⟩ = some (.markPublished
      "[EVENT_NOT_FOUND] Event not found (event_id=00000000-0000-0000-0000-000000000003)") := by
    decide +kernel
  rw [hclear, if_neg hworkspace] at hsecond
  rw [hunknown] at hmissing
  exact ⟨hsecond.1, ⟨_, hmissing.1⟩, hmissing.2⟩

end OutboxProvisioning
