import OutboxProvisioning.Proofs.Staging

/-!
# What one event does to the store

While an event is handled its transaction holds the store, and nobody else can get at it; but the
faults may be switched between any two of its calls. A store with the switches that lie ahead
(`Flickering`) runs the same programs and polls as a steady one.

* `Provisions`: what an event that is provisioned does to the store.
* `handle_cases`: **an event is provisioned, or fails and leaves the store as it was.**
-/

namespace OutboxProvisioning

/-- Switches of faults. -/
abbrev Switches := List (FaultPoint × Bool)

/-- A store with the switches of faults that come before the next calls. -/
structure Flickering where
  store : Store
  ahead : List Switches

/-- The store after some switches of faults. -/
def Store.switch (s : Store) (switches : Switches) : Store :=
  switches.foldl (fun s x => s.setFault x.1 x.2) s

namespace Flickering

/-- The store when the next call comes. -/
def current (f : Flickering) : Store := f.store.switch (f.ahead.headD [])

/-- The answer to a call, after the switches that come before it. -/
def answer (c : Call) (f : Flickering) : c.Answer × Flickering :=
  ((Store.answer c f.current).1, ⟨(Store.answer c f.current).2, f.ahead.tail⟩)

/-- The oldest pending events of a type, after the switches that come before the fetch. -/
def fetch (eventType : String) (limit : Nat) (f : Flickering) :
    Except DomainError (List Event) × Flickering :=
  ((Store.fetch eventType limit f.current).1, ⟨f.current, f.ahead.tail⟩)

/-- The store as one that polls can use. -/
def backend : Backend Flickering := ⟨fetch, answer, fun f => ([], f)⟩

/-- Handles a command. -/
def handle (f : Flickering) (cmd : Command) (draw : Draw) : Handled × Flickering :=
  (OutboxProvisioning.handle cmd draw).run answer f

/-- When nothing is switched programs run as on the store itself. -/
theorem run_steady (p : Program α) (s : Store) : p.run answer ⟨s, []⟩ =
    ((p.run Store.answer s).1, ⟨(p.run Store.answer s).2, []⟩) :=
  Program.run_map (Flickering.mk · []) (fun _ _ => rfl) p s

theorem handle_steady (s : Store) (cmd : Command) (draw : Draw) :
    handle ⟨s, []⟩ cmd draw = ((s.handle cmd draw).1, ⟨(s.handle cmd draw).2, []⟩) :=
  run_steady _ s

end Flickering

/-- Two stores hold the same. -/
def Store.Same (s s' : Store) : Prop := s'.events = s.events ∧ s'.workspaces = s.workspaces

/-- **What an event that is provisioned does to the store**: it was pending and is published, its
organization has a workspace, made now if there was none, and all else is as it was. -/
structure Provisions (cmd : Command) (draw : Draw) (p : Provisioned) (s s' : Store) : Prop where
  names : ∃ payload, Payload.decode cmd.payload = .ok payload ∧
    payload.organization = .ok p.organizationId
  event : ∃ e, s.event? cmd.eventId = some e ∧ e.isPending = true ∧
    s'.event? cmd.eventId = some (e.publishedFrom draw.now)
  others : ∀ id, id ≠ cmd.eventId → s'.event? id = s.event? id
  workspace : (p.effect = .alreadyProvisioned ∧ (s.workspace? p.organizationId).isSome = true ∧
      s'.workspace? p.organizationId = s.workspace? p.organizationId) ∨
    (p.effect = .created draw.workspaceId ∧ s.workspace? p.organizationId = none ∧
      s'.workspace? p.organizationId = some ⟨draw.workspaceId, p.organizationId, draw.now⟩)
  otherWorkspaces : ∀ o, o ≠ p.organizationId → s'.workspace? o = s.workspace? o

variable {s s' : Store} {t : Staged} {f : Flickering}

namespace Store

theorem switch_eq (s : Store) (switches : Switches) :
    ∃ faults, s.switch switches = { s with faults } := by
  unfold switch
  induction switches generalizing s with
  | nil => exact ⟨s.faults, rfl⟩
  | cons x rest ih =>
    obtain ⟨faults, h⟩ := ih (s.setFault x.1 x.2)
    exact ⟨faults, h⟩

/-- The store is in the hands of a transaction that began when it was `s`. -/
structure Holds (s' s : Store) (t : Staged) : Prop where
  same : s.Same s'
  transaction : s'.transaction = some t
  fits : t.Fits s

/-- The store is free, and holds what `s` holds. -/
structure Frees (s' s : Store) : Prop where
  same : s.Same s'
  transaction : s'.transaction = none

theorem Same.hasWorkspace (h : s.Same s') (o : OrganizationId) :
    s'.hasWorkspace t o = s.hasWorkspace t o := by
  simp [Store.hasWorkspace, h.2]

theorem Same.fits (h : s.Same s') (ht : t.Fits s) : t.Fits s' := by
  refine ⟨ht.owner, ?_, ?_⟩
  · intro o w hw
    rw [workspace?, h.2]
    exact ht.absent hw
  · intro id time hi
    rw [event?, h.1]
    exact ht.pending hi

theorem Same.symm (h : s.Same s') : s'.Same s := ⟨h.1.symm, h.2.symm⟩

theorem Frees.switch (h : s'.Frees s) (switches : Switches) : (s'.switch switches).Frees s := by
  obtain ⟨faults, hs⟩ := s'.switch_eq switches
  rw [hs]
  exact ⟨h.same, h.transaction⟩

theorem Holds.switch (h : s'.Holds s t) (switches : Switches) : (s'.switch switches).Holds s t := by
  obtain ⟨faults, hs⟩ := s'.switch_eq switches
  rw [hs]
  exact ⟨h.same, h.transaction, h.fits⟩

theorem Frees.begin (h : s'.Frees s) : ∃ s₁, answer .beginTransaction s' = (.ok (), s₁) ∧
    s₁.Holds s default :=
  ⟨_, answer_begin h.transaction, h.same, rfl, Staged.fits_default s⟩

theorem Holds.exists (h : s'.Holds s t) (o : OrganizationId) :
    answer (.workspaceExists o) s' = (.ok (s.hasWorkspace t o), s') := by
  rw [answer_exists h.transaction, h.same.hasWorkspace]

theorem Holds.create (h : s'.Holds s t) (w : Workspace) :
    (∃ e, answer (.createWorkspace w) s' = (.error e, s')) ∨
      s.workspace? w.organizationId = none ∧ ∃ s₁, answer (.createWorkspace w) s' = (.ok (), s₁) ∧
        s₁.Holds s { t with workspaces := t.workspaces.insert w.organizationId w } := by
  cases hw : s'.stageWorkspace t w with
  | error e => exact .inl ⟨e, stage_error h.transaction hw⟩
  | ok t' =>
    -- the write fits the store as it is now, which holds what it held at the beginning
    have hfits := (h.same.fits h.fits).stageWorkspace hw
    obtain ⟨-, hnone, rfl⟩ := stageWorkspace_eq_ok_iff.mp hw
    rw [h.same.hasWorkspace] at hnone
    exact .inr ⟨(hasWorkspace_eq_false_iff.mp hnone).1, _, stage_ok h.transaction hw, h.same, rfl,
      h.same.symm.fits hfits⟩

theorem Holds.mark (h : s'.Holds s t) (id : EventId) (time : Instant) :
    (∃ e, answer (.markPublished id time) s' = (.error e, s')) ∨
      (∃ e, s.event? id = some e ∧ e.isPending = true) ∧
        ∃ s₁, answer (.markPublished id time) s' = (.ok (), s₁) ∧
          s₁.Holds s { t with published := t.published.insert id time } := by
  cases hw : s'.stagePublication t id time with
  | error e => exact .inl ⟨e, stage_error h.transaction hw⟩
  | ok t' =>
    have hfits := (h.same.fits h.fits).stagePublication hw
    obtain ⟨-, hpending, -, rfl⟩ := stagePublication_eq_ok_iff.mp hw
    rw [event?, h.same.1] at hpending
    exact .inr ⟨hpending, _, stage_ok h.transaction hw, h.same, rfl, h.same.symm.fits hfits⟩

theorem Holds.commit (h : s'.Holds s t) :
    (∃ e s₁, answer .commit s' = (.error e, s₁) ∧ s₁.Frees s) ∨
      ∃ s₁, answer .commit s' = (.ok (), s₁) ∧ s₁.transaction = none ∧
        (∀ id, s₁.event? id = (s.event? id).map (publishedBy t.published id)) ∧
        ∀ o, s₁.workspace? o = (t.workspaces.find? o).or (s.workspace? o) := by
  rw [answer_commit h.transaction]
  rcases commit_of_fits (h.same.fits h.fits) with
    ⟨-, hc⟩ | ⟨-, s₁, hc, hnone, -, hevents, hworkspaces⟩
  · exact .inl ⟨_, _, hc, h.same, rfl⟩
  · refine .inr ⟨s₁, hc, hnone, ?_, ?_⟩
    · intro id
      rw [hevents, event?, event?, h.same.1]
    · intro o
      rw [hworkspaces, workspace?, workspace?, h.same.2]

theorem Holds.rollback (h : s'.Holds s t) :
    ∃ s₁, answer .rollback s' = (.ok (), s₁) ∧ s₁.Frees s :=
  ⟨_, rfl, h.same, rfl⟩

end Store

/-- A transaction whose commit provisions an event. -/
structure Ready (event : EventId) (o : OrganizationId) (draw : Draw) (effect : Effect) (s : Store)
    (t : Staged) : Prop where
  pending : ∃ e, s.event? event = some e ∧ e.isPending = true
  marked : ∀ id, t.published.find? id = if id = event then some draw.now else none
  workspace : (effect = .alreadyProvisioned ∧ (s.workspace? o).isSome = true ∧
      ∀ o', t.workspaces.find? o' = none) ∨
    (effect = .created draw.workspaceId ∧ s.workspace? o = none ∧
      ∀ o', t.workspaces.find? o' =
        if o' = o then some ⟨draw.workspaceId, o, draw.now⟩ else none)

section
variable {event : EventId} {o : OrganizationId} {draw : Draw} {effect : Effect} {cmd : Command}
  {payload : Payload}

/-- What a commit of a ready transaction does. -/
theorem Ready.provisions (h : Ready cmd.eventId o draw effect s t)
    (hp : Payload.decode cmd.payload = .ok payload) (ho : payload.organization = .ok o)
    (hevents : ∀ id, s'.event? id = (s.event? id).map (publishedBy t.published id))
    (hworkspaces : ∀ o, s'.workspace? o = (t.workspaces.find? o).or (s.workspace? o)) :
    Provisions cmd draw ⟨o, effect⟩ s s' := by
  obtain ⟨e, he, hpending⟩ := h.pending
  refine ⟨⟨payload, hp, ho⟩, ⟨e, he, hpending, ?_⟩, ?_, ?_, ?_⟩
  · rw [hevents, he]
    simp [publishedBy, h.marked]
  · -- only this event is marked
    intro id hid
    rw [hevents]
    cases s.event? id <;> simp [publishedBy, h.marked, hid]
  · rcases h.workspace with ⟨heffect, hsome, hnone⟩ | ⟨heffect, hnone, hone⟩
    · exact .inl ⟨heffect, hsome, by rw [hworkspaces, hnone]; rfl⟩
    · exact .inr ⟨heffect, hnone, by rw [hworkspaces, hone]; simp⟩
  · intro o' ho'
    rcases h.workspace with ⟨-, -, hnone⟩ | ⟨-, -, hone⟩
    · rw [hworkspaces, hnone]
      rfl
    · rw [hworkspaces, hone, if_neg ho']
      rfl

namespace Flickering

theorem publish_cases (h : f.store.Holds s t) (event : EventId) (now : Instant)
    (effect : Effect) :
    let r := (publish event now effect).run answer f
    ((∃ e, r.1 = .error e) ∧ r.2.store.Holds s t) ∨
      r.1 = .ok effect ∧ (∃ e, s.event? event = some e ∧ e.isPending = true) ∧
        r.2.store.Holds s { t with published := t.published.insert event now } := by
  simp only [publish, Program.run, answer]
  have hcur : f.current.Holds s t := h.switch _
  rcases hcur.mark event now with ⟨e, he⟩ | ⟨hpending, s₁, he, hs₁⟩
  · rw [he]
    exact .inl ⟨⟨_, rfl⟩, hcur⟩
  · rw [he]
    exact .inr ⟨rfl, hpending, hs₁⟩

/-- **The body of a transaction** fails, or leaves it ready to be committed. -/
theorem apply_cases (h : f.store.Holds s default) (event : EventId) (o : OrganizationId)
    (draw : Draw) :
    let r := (apply event o draw).run answer f
    (∃ e t, r.1 = .error e ∧ r.2.store.Holds s t) ∨
      ∃ effect t, r.1 = .ok effect ∧ r.2.store.Holds s t ∧ Ready event o draw effect s t := by
  simp only [apply, Program.run]
  have hcur : f.current.Holds s default := h.switch _
  have hexists := hcur.exists o
  simp only [answer, hexists]
  cases hw : s.hasWorkspace default o with
  | true =>
    -- nothing is staged yet, so the workspace is one of the store
    have hsome : (s.workspace? o).isSome = true := by
      rcases Bool.or_eq_true_iff.mp hw with hstored | hstaged
      · exact hstored
      · cases hstaged
    rcases publish_cases (f := ⟨f.current, f.ahead.tail⟩) hcur event draw.now
      .alreadyProvisioned with ⟨⟨e, he⟩, hs₁⟩ | ⟨he, hpending, hs₁⟩
    · exact .inl ⟨e, _, he, hs₁⟩
    · refine .inr ⟨_, _, he, hs₁, hpending, ?_, .inl ⟨rfl, hsome, fun _ => rfl⟩⟩
      intro id
      rw [Table.find?_insert]
      rfl
  | false =>
    have hnone := (hasWorkspace_eq_false_iff.mp hw).1
    have hnext : (Flickering.mk f.current f.ahead.tail).current.Holds s default := hcur.switch _
    simp only [Program.run, answer]
    rcases hnext.create ⟨draw.workspaceId, o, draw.now⟩ with ⟨e, he⟩ | ⟨-, s₁, he, hs₁⟩
    · rw [he]
      exact .inl ⟨_, _, rfl, hnext⟩
    · rw [he]
      rcases publish_cases (f := ⟨s₁, f.ahead.tail.tail⟩) hs₁ event draw.now
        (.created draw.workspaceId) with ⟨⟨e, he⟩, hs₂⟩ | ⟨he, hpending, hs₂⟩
      · exact .inl ⟨e, _, he, hs₂⟩
      · refine .inr ⟨_, _, he, hs₂, hpending, ?_, .inr ⟨rfl, hnone, ?_⟩⟩
        · intro id
          rw [Table.find?_insert]
          rfl
        · intro o'
          rw [Table.find?_insert]
          rfl

/-- The end of a transaction: what was ready is there, or nothing is. -/
theorem settle_cases {r : Except ProvisioningError Effect} (h : f.store.Holds s t)
    (hr : ∀ effect, r = .ok effect → Ready cmd.eventId o draw effect s t)
    (hp : Payload.decode cmd.payload = .ok payload) (ho : payload.organization = .ok o) :
    let done := (settle cmd payload o r).run answer f
    done.2.store.transaction = none ∧
      (((∃ e, done.1.result = .error e) ∧ s.Same done.2.store) ∨
        ∃ p, done.1.result = .ok p ∧ Provisions cmd draw p s done.2.store) := by
  have hcur : f.current.Holds s t := h.switch _
  cases r with
  | error e =>
    obtain ⟨s₁, hrollback, hs₁⟩ := hcur.rollback
    simp only [settle, Program.run, answer, hrollback]
    exact ⟨hs₁.transaction, .inl ⟨⟨e, rfl⟩, hs₁.same⟩⟩
  | ok effect =>
    simp only [settle, Program.run, answer]
    rcases hcur.commit with ⟨e, s₁, hcommit, hs₁⟩ | ⟨s₁, hcommit, hnone, hevents, hworkspaces⟩
    · rw [hcommit]
      exact ⟨hs₁.transaction, .inl ⟨⟨_, rfl⟩, hs₁.same⟩⟩
    · rw [hcommit]
      exact ⟨hnone, .inr ⟨_, rfl, (hr effect rfl).provisions hp ho hevents hworkspaces⟩⟩

/-- **An event is provisioned, or fails and leaves the store as it was**, whenever faults are
switched meanwhile. -/
theorem handle_cases (f : Flickering) (ht : f.store.transaction = none) (cmd : Command)
    (draw : Draw) :
    let r := f.handle cmd draw
    r.2.store.transaction = none ∧
      (((∃ e, r.1.result = .error e) ∧ f.store.Same r.2.store) ∨
        ∃ p, r.1.result = .ok p ∧ Provisions cmd draw p f.store r.2.store) := by
  rcases cmd.subject_cases with ⟨payload, o, hp, ho, hsubject⟩ | ⟨e, hsubject⟩
  · have hfree : f.current.Frees f.store := Store.Frees.switch ⟨⟨rfl, rfl⟩, ht⟩ _
    obtain ⟨s₁, hbegin, hs₁⟩ := hfree.begin
    simp only [handle, OutboxProvisioning.handle, hsubject, Program.run, answer, hbegin,
      Program.run_bind]
    -- what the body of the transaction did says how it is settled
    rcases apply_cases (f := ⟨s₁, f.ahead.tail⟩) hs₁ cmd.eventId o draw with
      ⟨e, t, he, ht⟩ | ⟨effect, t, he, ht, hready⟩
    · refine settle_cases ht ?_ hp ho
      intro effect heffect
      rw [he] at heffect
      cases heffect
    · refine settle_cases ht ?_ hp ho
      intro effect' heffect
      rw [he] at heffect
      cases heffect
      exact hready
  · rw [handle, handle_run_error hsubject draw answer f]
    exact ⟨ht, .inl ⟨⟨e, rfl⟩, rfl, rfl⟩⟩

end Flickering

end

end OutboxProvisioning
