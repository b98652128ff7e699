import Mathlib.Data.List.Forall2
import Mathlib.Data.List.Nodup
import OutboxProvisioning.Proofs.Report
import OutboxProvisioning.Proofs.Sharing

/-!
# What is logged

The handler logs what it has committed, and the work on a batch logs what failed. Faults may be
switched at any point, also inside a transaction.

* `Records`: the record of an outcome, word by word.
* `Store.Gains`, `Store.Adds`: workspaces come to a store.
* `Accounted`: the log tells of each of them once, and of no others.
* `Flickering.handle_told`: what a command does, and what it logs.
* `Flickering.poll_recorded`: **a poll logs one record for each outcome**, in the same order, and its
  log accounts for the workspaces.
* `Journal.summary`: what the loop adds to that agrees with the records.
-/

namespace OutboxProvisioning

variable {s s₁ s' : Store} {f : Flickering} {cmd : Command} {draw : Draw} {p : Provisioned}
  {o : OrganizationId} {x : EventOutcome} {entry : Log.Entry} {log log' : List Log.Entry}
  {ws ws' : List Workspace}

/-! ## Records -/

/-- **The record of an outcome**, in the store that is left. -/
inductive Records (s : Store) : EventOutcome → Log.Entry → Prop
  | created {id : EventId} {o : OrganizationId} {w : Workspace} {e : Event} {p : Payload}
      (hw : s.workspace? o = some w) (he : s.event? id = some e)
      (hp : Payload.decode e.payload = .ok p) :
      Records s ⟨id, .ok ⟨o, .created w.id⟩⟩
        ⟨.provisioning, .info, "Provisioned billing workspace",
          [("event_id", .text (toString id)), ("organization_id", .text (toString o)),
            ("workspace_id", .text (toString w.id)), ("country_code", .text p.countryCode),
            ("default_currency", .text p.defaultCurrency)]⟩
  | already {id : EventId} {o : OrganizationId} :
      Records s ⟨id, .ok ⟨o, .alreadyProvisioned⟩⟩
        ⟨.provisioning, .debug, "Billing workspace already exists, marking event published",
          [("event_id", .text (toString id)), ("organization_id", .text (toString o))]⟩
  | rejected {id : EventId} {err : ProvisioningError} (h : err.isRetryable = false) :
      Records s ⟨id, .error err⟩
        ⟨.consumer, .warn, "Rejected malformed outbox event",
          [("event_id", .text (toString id)), ("code", .text err.code.name),
            ("error", .text err.message)]⟩
  | failed {id : EventId} {err : ProvisioningError} (h : err.isRetryable = true) :
      Records s ⟨id, .error err⟩
        ⟨.consumer, .error, "Failed to process outbox event",
          [("event_id", .text (toString id)), ("code", .text err.code.name),
            ("error", .text err.message)]⟩

theorem Records.failure (s : Store) (id : EventId) (err : ProvisioningError) :
    Records s ⟨id, .error err⟩ (Log.failure id err) := by
  unfold Log.failure
  split
  · next h => exact .failed h
  · next h => exact .rejected (by simpa using h)

/-- A store that holds all that another one does; events may have been published. -/
structure Store.Keeps (s s' : Store) : Prop where
  workspace : ∀ {o w}, s.workspace? o = some w → s'.workspace? o = some w
  event : ∀ {id e}, s.event? id = some e → ∃ e', s'.event? id = some e' ∧ e'.payload = e.payload

theorem Store.Keeps.refl (s : Store) : s.Keeps s := ⟨id, fun he => ⟨_, he, rfl⟩⟩

theorem Store.Keeps.trans (h : s.Keeps s₁) (h' : s₁.Keeps s') : s.Keeps s' := by
  refine ⟨fun hw => h'.workspace (h.workspace hw), fun he => ?_⟩
  obtain ⟨e₁, he₁, hp₁⟩ := h.event he
  obtain ⟨e₂, he₂, hp₂⟩ := h'.event he₁
  exact ⟨e₂, he₂, hp₂.trans hp₁⟩

theorem Store.Same.keeps (h : s.Same s') : s.Keeps s' :=
  ⟨fun hw => by rw [h.workspace, hw], fun he => ⟨_, by rw [h.event, he], rfl⟩⟩

theorem Provisions.keeps (h : Provisions cmd draw p s s') : s.Keeps s' :=
  ⟨h.workspace_mono, h.event_mono⟩

/-- A record stays true. -/
theorem Records.later (h : Records s x entry) (hkeeps : s.Keeps s') : Records s' x entry := by
  cases h with
  | created hw he hp =>
    obtain ⟨e', he', hpayload⟩ := hkeeps.event he
    exact .created (hkeeps.workspace hw) he' (by rw [hpayload, hp])
  | already => exact .already
  | rejected h => exact .rejected h
  | failed h => exact .failed h

/-! ## Workspaces that come to a store -/

/-- **These workspaces come to a store**, each for an organization that has none, and none is taken
away. -/
structure Store.Gains (s s' : Store) (ws : List Workspace) : Prop where
  kept : ∀ {o w}, s.workspace? o = some w → s'.workspace? o = some w
  stored : ∀ w ∈ ws, s'.workspace? w.organizationId = some w
  fresh : ∀ w ∈ ws, s.workspace? w.organizationId = none
  distinct : (ws.map Workspace.organizationId).Nodup

/-- These workspaces come to a store, and no others. -/
structure Store.Adds (s s' : Store) (ws : List Workspace) : Prop extends s.Gains s' ws where
  only : ∀ {o w}, s'.workspace? o = some w →
    s.workspace? o = some w ∨ w ∈ ws ∧ w.organizationId = o

/-- The record of a workspace that was created. -/
inductive Tells : Log.Entry → Workspace → Prop
  | provisioned {id : EventId} {w : Workspace} {country currency : String} :
      Tells ⟨.provisioning, .info, "Provisioned billing workspace",
        [("event_id", .text (toString id)), ("organization_id", .text (toString w.organizationId)),
          ("workspace_id", .text (toString w.id)), ("country_code", .text country),
          ("default_currency", .text currency)]⟩ w

/-- Whether a record says that a workspace was created. -/
def Log.Entry.isProvisioned (e : Log.Entry) : Bool :=
  e.level = .info && e.message = "Provisioned billing workspace"

@[simp] theorem Log.isProvisioned_created (cmd : Command) (p : Payload) (o : OrganizationId)
    (w : WorkspaceId) : (Log.created cmd p o w).isProvisioned = true := by
  simp [Log.created, Log.Entry.isProvisioned]

@[simp] theorem Log.isProvisioned_already (cmd : Command) (o : OrganizationId) :
    (Log.alreadyProvisioned cmd o).isProvisioned = false := by
  simp [Log.alreadyProvisioned, Log.Entry.isProvisioned]

@[simp] theorem Log.isProvisioned_failure (id : EventId) (err : ProvisioningError) :
    (Log.failure id err).isProvisioned = false := by
  unfold Log.failure
  split <;> simp [Log.Entry.isProvisioned]

/-- **The log accounts for the workspaces** that have come to a store: it tells of each of them once,
and of no others. -/
def Accounted (s : Store) (log : List Log.Entry) (s' : Store) : Prop :=
  ∃ ws, s.Adds s' ws ∧ List.Forall₂ Tells (log.filter Log.Entry.isProvisioned) ws

namespace Store

/-- Nothing comes to a store that keeps what it has. -/
theorem Gains.of_kept (h : ∀ {o w}, s.workspace? o = some w → s'.workspace? o = some w) :
    s.Gains s' [] := ⟨h, by simp, by simp, by simp⟩

theorem Adds.of_same (h : ∀ o, s'.workspace? o = s.workspace? o) : s.Adds s' [] :=
  ⟨.of_kept fun hw => by rw [h, hw], fun hw => .inl (by rw [← h, hw])⟩

/-- What is free later was free before. -/
theorem Gains.free_before (h : s.Gains s' ws) (ho : s'.workspace? o = none) :
    s.workspace? o = none := by
  cases hw : s.workspace? o with
  | none => rfl
  | some w => cases ho.symm.trans (h.kept hw)

theorem Gains.trans (h : s.Gains s₁ ws) (h' : s₁.Gains s' ws') : s.Gains s' (ws ++ ws') := by
  refine ⟨fun hw => h'.kept (h.kept hw), ?_, ?_, ?_⟩
  · intro w hw
    rcases List.mem_append.mp hw with hw | hw
    · exact h'.kept (h.stored w hw)
    · exact h'.stored w hw
  · intro w hw
    rcases List.mem_append.mp hw with hw | hw
    · exact h.fresh w hw
    · exact h.free_before (h'.fresh w hw)
  · rw [List.map_append, List.nodup_append]
    refine ⟨h.distinct, h'.distinct, ?_⟩
    rintro o ho _ ho' rfl
    obtain ⟨w, hw, rfl⟩ := List.mem_map.mp ho
    obtain ⟨w', hw', heq⟩ := List.mem_map.mp ho'
    -- the organization has a workspace by then, so it is given no other one
    have hnone := h'.fresh w' hw'
    rw [heq, h.stored w hw] at hnone
    cases hnone

theorem Adds.trans (h : s.Adds s₁ ws) (h' : s₁.Adds s' ws') : s.Adds s' (ws ++ ws') := by
  refine ⟨h.toGains.trans h'.toGains, fun hw => ?_⟩
  rw [List.mem_append, or_and_right, ← or_assoc]
  rcases h'.only hw with hbefore | hlater
  · exact .inl (h.only hbefore)
  · exact .inr hlater

/-- The workspaces that a store has and that another one has not. -/
def gained (s s' : Store) : List Workspace :=
  s'.workspaces.values.filter fun w => (s.workspace? w.organizationId).isNone

/-- The stored workspaces are those that are found under their own organizations. -/
theorem Sound.mem_workspaces (h : s.Sound) {w : Workspace} :
    w ∈ s.workspaces.values ↔ s.workspace? w.organizationId = some w := by
  constructor
  · intro hw
    obtain ⟨x, hx, rfl⟩ := List.mem_map.mp hw
    have hfind : s.workspace? x.1 = some x.2 := Table.find?_eq_some_iff.mpr hx
    rw [h.owner hfind]
    exact hfind
  · exact fun hw => List.mem_map.mpr ⟨_, Table.find?_eq_some_iff.mp hw, rfl⟩

theorem Sound.nodup_workspaces (h : s.Sound) : s.workspaces.values.Nodup := by
  have hkeys : s.workspaces.values.map Workspace.organizationId =
      s.workspaces.entries.map Prod.fst := by
    rw [Table.values, List.map_map]
    exact List.map_congr_left fun x hx => h.owner (Table.find?_eq_some_iff.mpr hx)
  have hdistinct : (s.workspaces.values.map Workspace.organizationId).Nodup :=
    hkeys ▸ s.workspaces.nodup
  exact hdistinct.of_map

/-- What comes to a store is what it has gained, in some order. -/
theorem Adds.perm (h : s.Adds s' ws) (hsound : s'.Sound) : ws.Perm (s.gained s') := by
  refine (List.perm_ext_iff_of_nodup h.distinct.of_map
    (hsound.nodup_workspaces.filter _)).mpr fun w => ?_
  rw [List.mem_filter, hsound.mem_workspaces, Option.isNone_iff_eq_none]
  constructor
  · exact fun hw => ⟨h.stored w hw, h.fresh w hw⟩
  · rintro ⟨hw, hnone⟩
    rcases h.only hw with hbefore | ⟨hmem, -⟩
    · cases hnone.symm.trans hbefore
    · exact hmem

end Store

namespace Accounted

theorem of_same (h : ∀ o, s'.workspace? o = s.workspace? o)
    (hlog : log.filter Log.Entry.isProvisioned = []) : Accounted s log s' :=
  ⟨[], .of_same h, by rw [hlog]; exact .nil⟩

theorem refl (s : Store) : Accounted s [] s := of_same (fun _ => rfl) rfl

theorem trans (h : Accounted s log s₁) (h' : Accounted s₁ log' s') :
    Accounted s (log ++ log') s' := by
  obtain ⟨ws, hadds, htells⟩ := h
  obtain ⟨ws', hadds', htells'⟩ := h'
  refine ⟨ws ++ ws', hadds.trans hadds', ?_⟩
  rw [List.filter_append]
  exact List.rel_append htells htells'

end Accounted

/-! ## One command -/

/-- What a command logs, on a store that rolls back when it is told to. -/
theorem handle_log {σ : Type} {answer : (c : Call) → σ → c.Answer × σ}
    (hrollback : ∀ s, (answer .rollback s).1 = .ok ()) (cmd : Command) (draw : Draw) (s : σ) :
    (∃ err, ((handle cmd draw).run answer s).1 = ⟨.error err, []⟩) ∨
      ∃ payload p, Payload.decode cmd.payload = .ok payload ∧
        ((handle cmd draw).run answer s).1 =
          ⟨.ok p, [p.effect.report cmd payload p.organizationId]⟩ := by
  rcases cmd.subject_cases with ⟨payload, o, hdecode, -, hsubject⟩ | ⟨err, hsubject⟩
  · simp only [handle, hsubject, Program.run]
    cases (answer .beginTransaction s).1 with
    | error e => exact .inl ⟨_, rfl⟩
    | ok u =>
      dsimp only
      rw [Program.run_bind]
      -- the body of the transaction says how it is settled
      cases ((apply cmd.eventId o draw).run answer (answer .beginTransaction s).2).1 with
      | error e =>
        simp only [settle, Program.run, hrollback]
        exact .inl ⟨_, rfl⟩
      | ok effect =>
        simp only [settle, Program.run]
        cases (answer .commit _).1 with
        | error e => exact .inl ⟨_, rfl⟩
        | ok u => exact .inr ⟨payload, ⟨o, effect⟩, hdecode, rfl⟩
  · rw [handle_run_error hsubject]
    exact .inl ⟨err, rfl⟩

/-- The workspaces that come with a result: one, if it says so. -/
def Provisioned.workspaces (p : Provisioned) (now : Instant) : List Workspace :=
  match p.effect with
  | .created id => [⟨id, p.organizationId, now⟩]
  | .alreadyProvisioned => []

theorem Tells.created (cmd : Command) (payload : Payload) (w : Workspace) :
    Tells (Log.created cmd payload w.organizationId w.id) w := .provisioned

/-- The record of an effect tells of the workspaces that come with it. -/
theorem tells_report (cmd : Command) (payload : Payload) (p : Provisioned) (now : Instant) :
    List.Forall₂ Tells ([p.effect.report cmd payload p.organizationId].filter
      Log.Entry.isProvisioned) (p.workspaces now) := by
  obtain ⟨o, effect⟩ := p
  cases effect with
  | created id =>
    simp only [Effect.report, List.filter_cons, Log.isProvisioned_created, if_true,
      List.filter_nil]
    exact .cons (.created cmd payload ⟨id, o, now⟩) .nil
  | alreadyProvisioned =>
    simp only [Effect.report, List.filter_cons, Log.isProvisioned_already, Bool.false_eq_true,
      if_false, List.filter_nil]
    exact .nil

/-- An event that is provisioned gives its organization a workspace, if it had none. -/
theorem Provisions.adds (h : Provisions cmd draw p s s') : s.Adds s' (p.workspaces draw.now) := by
  unfold Provisioned.workspaces
  rcases h.workspace with ⟨heffect, -, hsame⟩ | ⟨heffect, hnone, hnew⟩
  · rw [heffect]
    refine .of_same fun o => ?_
    by_cases ho : o = p.organizationId
    · rw [ho, hsame]
    · exact h.otherWorkspaces o ho
  · rw [heffect]
    refine ⟨⟨h.workspace_mono, by simpa using hnew, by simpa using hnone, by simp⟩, ?_⟩
    intro o w hw
    by_cases ho : o = p.organizationId
    · subst ho
      cases hnew.symm.trans hw
      exact .inr ⟨List.mem_singleton.mpr rfl, rfl⟩
    · exact .inl (by rw [← h.otherWorkspaces o ho, hw])

namespace Flickering

/-- **What a command does, and what it logs**: it fails, logs nothing and leaves the store as it was,
or it is carried out and logs its effect. -/
theorem handle_told (f : Flickering) (hfree : f.store.transaction = none) (cmd : Command)
    (draw : Draw) :
    let r := f.handle cmd draw
    r.2.store.transaction = none ∧
      ((∃ err, r.1 = ⟨.error err, []⟩ ∧ f.store.Same r.2.store) ∨
        ∃ payload p, Payload.decode cmd.payload = .ok payload ∧
          r.1 = ⟨.ok p, [p.effect.report cmd payload p.organizationId]⟩ ∧
          Provisions cmd draw p f.store r.2.store) := by
  obtain ⟨hnone, hcases⟩ := f.handle_cases hfree cmd draw
  refine ⟨hnone, ?_⟩
  have hlog : (∃ err, (f.handle cmd draw).1 = ⟨.error err, []⟩) ∨
      ∃ payload p, Payload.decode cmd.payload = .ok payload ∧
        (f.handle cmd draw).1 = ⟨.ok p, [p.effect.report cmd payload p.organizationId]⟩ :=
    handle_log (fun _ => rfl) cmd draw f
  rcases hlog with ⟨err, herr⟩ | ⟨payload, p, hdecode, hok⟩
  · rcases hcases with ⟨-, hsame⟩ | ⟨p, hp, -⟩
    · exact .inl ⟨err, herr, hsame⟩
    · rw [herr] at hp
      cases hp
  · rcases hcases with ⟨⟨err, herr⟩, -⟩ | ⟨p', hp', hprovisions⟩
    · rw [hok] at herr
      cases herr
    · rw [hok] at hp'
      cases hp'
      exact .inr ⟨payload, p, hdecode, hok, hprovisions⟩

/-- **A command accounts for the workspace** that it gives to its organization. -/
theorem handle_accounted (f : Flickering) (hfree : f.store.transaction = none) (cmd : Command)
    (draw : Draw) :
    Accounted f.store (f.handle cmd draw).1.log (f.handle cmd draw).2.store := by
  obtain ⟨-, ⟨err, herr, hsame⟩ | ⟨payload, p, -, hok, hprovisions⟩⟩ :=
    f.handle_told hfree cmd draw
  · rw [herr]
    exact .of_same hsame.workspace rfl
  · rw [hok]
    exact ⟨_, hprovisions.adds, tells_report cmd payload p draw.now⟩

/-! ## A batch -/

/-- The work on an event that is stored has one record. -/
theorem event_recorded {f f' : Flickering} {e : Event} {handled : Handled}
    (hr : f.handle e.command draw = (handled, f')) (hfree : f.store.transaction = none)
    (he : ∃ e', f.store.event? e.id = some e' ∧ e'.payload = e.payload) :
    f'.store.transaction = none ∧ f.store.Keeps f'.store ∧
      (∃ entry, handled.entries e.id = [entry] ∧
        Records f'.store ⟨e.id, handled.result⟩ entry) ∧
      Accounted f.store (handled.entries e.id) f'.store := by
  obtain ⟨hnone, hcases⟩ := f.handle_told hfree e.command draw
  have haccounted := f.handle_accounted hfree e.command draw
  simp only [hr] at hnone hcases haccounted
  refine ⟨hnone, ?_⟩
  rcases hcases with ⟨err, rfl, hsame⟩ | ⟨payload, ⟨o, effect⟩, hdecode, rfl, hprovisions⟩
  · refine ⟨hsame.keeps, ⟨Log.failure e.id err, rfl, .failure _ e.id err⟩, ?_⟩
    exact .of_same hsame.workspace (by simp [Handled.entries])
  · refine ⟨hprovisions.keeps, ⟨effect.report e.command payload o, rfl, ?_⟩, haccounted⟩
    rcases hprovisions.workspace with ⟨heffect, -, -⟩ | ⟨heffect, -, hnew⟩
    · obtain rfl : effect = .alreadyProvisioned := heffect
      exact .already
    · obtain rfl : effect = .created draw.workspaceId := heffect
      obtain ⟨e', he', hpayload⟩ := he
      obtain ⟨e'', he'', hpayload'⟩ := hprovisions.event_mono he'
      have hdecode' : Payload.decode e''.payload = .ok payload := by
        rw [hpayload', hpayload]
        exact hdecode
      exact .created hnew he'' hdecode'

/-- **The work on a batch** has one record for each outcome, and accounts for the workspaces. -/
theorem process_recorded (draws : Nat → Draw) (first : Nat) {es : List Event} (f : Flickering)
    (hfree : f.store.transaction = none)
    (hes : ∀ e ∈ es, ∃ e', f.store.event? e.id = some e' ∧ e'.payload = e.payload) :
    let r := backend.process draws first es f
    f.store.Keeps r.2.2.store ∧ List.Forall₂ (Records r.2.2.store) r.1 r.2.1 ∧
      Accounted f.store r.2.1 r.2.2.store := by
  induction es generalizing f first with
  | nil => exact ⟨.refl _, .nil, .refl _⟩
  | cons e es ih =>
    obtain ⟨handled, f₁, hr⟩ : ∃ handled f₁, f.handle e.command (draws first) = (handled, f₁) :=
      ⟨_, _, rfl⟩
    obtain ⟨hfree₁, hkeeps, ⟨entry, hentries, hrecord⟩, haccounted⟩ :=
      event_recorded hr hfree (hes e List.mem_cons_self)
    have hes₁ : ∀ x ∈ es, ∃ x', f₁.store.event? x.id = some x' ∧ x'.payload = x.payload := by
      intro x hx
      obtain ⟨x', hx', hpayload⟩ := hes x (List.mem_cons_of_mem _ hx)
      obtain ⟨x'', hx'', hpayload'⟩ := hkeeps.event hx'
      exact ⟨x'', hx'', hpayload'.trans hpayload⟩
    obtain ⟨hkeeps', hrecords, haccounted'⟩ := ih (first + 1) f₁ hfree₁ hes₁
    have hprocess : backend.process draws first (e :: es) f =
        (⟨e.id, handled.result⟩ :: (backend.process draws (first + 1) es f₁).1,
          handled.entries e.id ++ (backend.process draws (first + 1) es f₁).2.1,
          (backend.process draws (first + 1) es f₁).2.2) := by
      have hrun : (OutboxProvisioning.handle e.command (draws first)).run backend.answer f =
          (handled, f₁) := hr
      have hreports : backend.reports f₁ = ([], f₁) := rfl
      simp only [Backend.process, hrun, hreports, List.nil_append]
    rw [hprocess]
    refine ⟨hkeeps.trans hkeeps', ?_, haccounted.trans haccounted'⟩
    -- the record of this event stays true while the others are worked on
    rw [hentries]
    exact .cons (hrecord.later hkeeps') hrecords

end Flickering

/-- What is fetched is stored. -/
theorem Store.Sound.fetched (h : s.Sound) {eventType : String} {limit : Nat} {es : List Event}
    (hes : (Store.fetch eventType limit s).1 = .ok es) : ∀ e ∈ es, s.event? e.id = some e := by
  unfold Store.fetch at hes
  split at hes
  · cases hes
  · cases hes
    exact fun e he => h.oldest he

/-- There is one outcome for each event. -/
theorem Backend.process_ids {σ : Type} (b : Backend σ) (draws : Nat → Draw) (first : Nat)
    (es : List Event) (s : σ) :
    (b.process draws first es s).1.map EventOutcome.eventId = es.map Event.id := by
  induction es generalizing first s with
  | nil => rfl
  | cons e es ih => simp only [process, List.map_cons, ih]

/-- **What a poll reports, and what it logs**, after a fetch: one outcome for each event, and one
record for each outcome, in the same order; or it could not fetch, and logs nothing. -/
inductive Journal (s : Store) : Except DomainError (List Event) →
    Except ProvisioningError Report → List Log.Entry → Prop
  | unfetched {e : DomainError} : Journal s (.error e) (.error (.fetch e.text)) []
  | worked {es : List Event} {r : Report} {log : List Log.Entry}
      (hids : r.outcomes.map EventOutcome.eventId = es.map Event.id)
      (h : List.Forall₂ (Records s) r.outcomes log) : Journal s (.ok es) (.ok r) log

/-- The work on events that are stored, after their fetch. -/
theorem Flickering.fetched_recorded (draws : Nat → Draw) (f : Flickering)
    (hfree : f.store.transaction = none) {fetched : Except DomainError (List Event)}
    (hes : ∀ es, fetched = .ok es → ∀ e ∈ es, f.store.event? e.id = some e) :
    let p := backend.pollFetched draws (fetched, f)
    Journal p.state.store fetched p.result p.log ∧ Accounted f.store p.log p.state.store := by
  cases fetched with
  | error e => exact ⟨.unfetched, .refl _⟩
  | ok es =>
    obtain ⟨-, hrecords, haccounted⟩ := process_recorded draws 0 f hfree
      fun e he => ⟨e, hes es rfl e he, rfl⟩
    exact ⟨.worked (backend.process_ids draws 0 es f) hrecords, haccounted⟩

/-- **A poll logs one record for each outcome**, and accounts for the workspaces, whenever faults are
switched meanwhile. -/
theorem Flickering.poll_recorded (f : Flickering) (hsound : f.store.Sound)
    (hfree : f.store.transaction = none) (config : ConsumerConfig) (draws : Nat → Draw) :
    let p := backend.poll config draws f
    Journal p.state.store (f.fetch config.eventType config.batchSize).1 p.result p.log ∧
      Accounted f.store p.log p.state.store := by
  obtain ⟨faults, hcurrent⟩ := f.store.switch_eq (f.ahead.headD [])
  let f₁ : Flickering := ⟨f.current, f.ahead.tail⟩
  have hfree₁ : f₁.store.transaction = none := by
    change (f.store.switch _).transaction = none
    rw [hcurrent]
    exact hfree
  have hstored : ∀ es, (f.fetch config.eventType config.batchSize).1 = .ok es →
      ∀ e ∈ es, f₁.store.event? e.id = some e := fun es hes => (hsound.switch _).fetched hes
  have hrecorded := f₁.fetched_recorded draws hfree₁ hstored
  have hsame : ∀ o, f₁.store.workspace? o = f.store.workspace? o := by
    intro o
    change (f.store.switch _).workspace? o = _
    rw [hcurrent]
    rfl
  have hswitched : Accounted f.store [] f₁.store := .of_same hsame rfl
  exact ⟨hrecorded.1, hswitched.trans hrecorded.2⟩

namespace Store

/-- A command in a store whose faults stay as they are. -/
theorem handle_accounted (hfree : s.transaction = none) (cmd : Command) (draw : Draw) :
    Accounted s (s.handle cmd draw).1.log (s.handle cmd draw).2 := by
  have h := Flickering.handle_accounted ⟨s, []⟩ hfree cmd draw
  rwa [Flickering.handle_steady] at h

/-- A poll of such a store, after its fetch. If nothing could be fetched, it need not be free. -/
theorem fetched_recorded (draws : Nat → Draw) {fetched : Except DomainError (List Event)}
    (h : ∀ es, fetched = .ok es → s.transaction = none ∧ ∀ e ∈ es, s.event? e.id = some e) :
    let p := backend.pollFetched draws (fetched, s)
    Journal p.state fetched p.result p.log ∧ Accounted s p.log p.state := by
  cases fetched with
  | error e => exact ⟨.unfetched, .refl _⟩
  | ok es =>
    obtain ⟨hfree, hes⟩ := h es rfl
    obtain ⟨-, hrecords, haccounted⟩ := Flickering.process_recorded draws 0 ⟨s, []⟩ hfree
      fun e he => ⟨e, hes e he, rfl⟩
    have hsteady : Flickering.backend.process draws 0 es ⟨s, []⟩ =
        let r := backend.process draws 0 es s
        (r.1, r.2.1, ⟨r.2.2, []⟩) :=
      Backend.process_map (Flickering.mk · []) (fun _ _ => rfl) (fun _ => rfl) draws 0 es s
    rw [hsteady] at hrecords haccounted
    exact ⟨.worked (backend.process_ids draws 0 es s) hrecords, haccounted⟩

/-- A poll is the work on what is fetched. -/
theorem poll_fetched (config : ConsumerConfig) (draws : Nat → Draw) (s : Store) :
    backend.poll config draws s = backend.pollFetched draws
      ((Store.fetch config.eventType config.batchSize s).1, s) := by
  have hfetch : backend.fetch config.eventType config.batchSize s =
      ((Store.fetch config.eventType config.batchSize s).1, s) :=
    Prod.ext rfl (fetch_snd _ _ s)
  rw [Backend.poll, hfetch]

end Store

/-! ## What the loop adds to a poll -/

/-- A record of an event that was provisioned. -/
def Log.Entry.isSuccess (e : Log.Entry) : Bool := e.level = .info || e.level = .debug

/-- A record of an event that failed. -/
def Log.Entry.isFailure (e : Log.Entry) : Bool := e.level = .warn || e.level = .error

/-- **What the loop adds to the records of a poll**: an error alone if nothing could be fetched, a
trace if nothing was there, or how many events were fetched, published and failed. -/
inductive Summarizes : Except ProvisioningError Report → List Log.Entry → Log.Entry → Prop
  | unfetched {err : ProvisioningError} :
      Summarizes (.error err) []
        ⟨.consumer, .error, "Outbox poll failed", [("error", .text err.message)]⟩
  | nothing {r : Report} (h : r.outcomes = []) :
      Summarizes (.ok r) [] ⟨.consumer, .trace, "No pending outbox events", []⟩
  | worked {r : Report} {log : List Log.Entry} {fetched published failed : Nat}
      (hsome : fetched ≠ 0) (hsum : fetched = published + failed)
      (houtcomes : fetched = r.outcomes.length) (hfetched : fetched = log.length)
      (hpublished : published = log.countP Log.Entry.isSuccess)
      (hfailed : failed = log.countP Log.Entry.isFailure) :
      Summarizes (.ok r) log
        ⟨.consumer, .info, "Processed outbox batch",
          [("fetched", .number fetched), ("published", .number published),
            ("failed", .number failed)]⟩

theorem Records.levels (h : Records s x entry) :
    entry.isSuccess = x.result.isOk ∧ entry.isFailure = !x.result.isOk := by
  cases h <;> exact ⟨rfl, rfl⟩

/-- The records tell how many events were published and how many failed. -/
theorem counts_of_records {r : Report} (h : List.Forall₂ (Records s) r.outcomes log) :
    r.published = log.countP Log.Entry.isSuccess ∧ r.failed = log.countP Log.Entry.isFailure := by
  have hfailed : r.failed = (r.outcomes.filter fun x => !x.result.isOk).length := by
    have := congrArg List.length r.failures_ids
    rwa [List.length_map, List.length_map] at this
  rw [hfailed, Report.published, ← List.countP_eq_length_filter, ← List.countP_eq_length_filter]
  clear hfailed
  generalize r.outcomes = outcomes at h
  induction h with
  | nil => exact ⟨rfl, rfl⟩
  | cons hx _ ih =>
    obtain ⟨hsuccess, hfailure⟩ := hx.levels
    rw [List.countP_cons, List.countP_cons, List.countP_cons, List.countP_cons, hsuccess,
      hfailure, ih.1, ih.2]
    exact ⟨rfl, rfl⟩

/-- **The summary of a poll agrees with its records.** -/
theorem Journal.summary {fetched : Except DomainError (List Event)}
    {result : Except ProvisioningError Report} (h : Journal s fetched result log) :
    Summarizes result log (Log.batch result) := by
  cases h with
  | unfetched => exact .unfetched
  | @worked _ r _ _ h =>
    have hlength : r.fetched = log.length := h.length_eq
    by_cases hnone : r.fetched = 0
    · obtain rfl : log = [] := List.length_eq_zero_iff.mp (hlength ▸ hnone)
      rw [Log.batch, if_pos hnone]
      exact .nothing (List.length_eq_zero_iff.mp hnone)
    · obtain ⟨hpublished, hfailed⟩ := counts_of_records h
      rw [Log.batch, if_neg hnone]
      exact .worked hnone r.fetched_eq rfl hlength hpublished hfailed

end OutboxProvisioning
