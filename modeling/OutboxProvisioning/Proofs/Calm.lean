import OutboxProvisioning.Proofs.Sharing

/-!
# Events and polls without faults

While no fault is on, an event goes wrong only for its payload or because it is published already.

* `Event.isRejected`: whether the payload of an event names no organization.
* `Flickering.Calm.provisions`: a pending event is provisioned, if its payload lets it.
* `Store.Calm.poll`: **a poll publishes exactly the events of its batch that are not rejected.**
-/

namespace OutboxProvisioning

/-- Whether the payload of an event cannot be decoded or does not name an organization. -/
def Event.isRejected (e : Event) : Bool :=
  match Payload.decode e.payload with
  | .error _ => true
  | .ok p => !p.organization.isOk

theorem Event.subject_of_rejected {e : Event} (h : e.isRejected = true) :
    ∃ err, e.command.subject = .error err := by
  unfold isRejected at h
  cases hp : Payload.decode e.payload with
  | error err => exact ⟨err, Command.subject_of_error (.inl hp)⟩
  | ok p =>
    rw [hp] at h
    cases ho : p.organization with
    | error err => exact ⟨err, Command.subject_of_error (.inr ⟨p, hp, ho⟩)⟩
    | ok o => simp [ho, Except.isOk, Except.toBool] at h

theorem Event.subject_of_accepted {e : Event} (h : e.isRejected = false) :
    ∃ p o, e.command.subject = .ok (p, o) := by
  unfold isRejected at h
  cases hp : Payload.decode e.payload with
  | error err => simp [hp] at h
  | ok p =>
    rw [hp] at h
    cases ho : p.organization with
    | error err => simp [ho, Except.isOk, Except.toBool] at h
    | ok o => exact ⟨p, o, Command.subject_of_ok hp ho⟩

variable {s : Store} {t : Staged} {f : Flickering}

/-- **No fault is on**, and none is switched on later. -/
structure Flickering.Calm (f : Flickering) : Prop where
  faults : f.store.faults = .none
  ahead : ∀ switches ∈ f.ahead, ∀ x ∈ switches, x.2 = false

theorem Store.setFault_off (hs : s.faults = .none) (point : FaultPoint) :
    (s.setFault point false).faults = .none := by
  cases point <;> simp [Store.setFault, Faults.set, hs, Faults.none]

namespace Flickering

theorem switch_faults_none {switches : Switches} (hs : s.faults = .none)
    (h : ∀ x ∈ switches, x.2 = false) : (s.switch switches).faults = .none := by
  unfold Store.switch
  induction switches generalizing s with
  | nil => exact hs
  | cons x rest ih =>
    refine ih ?_ fun y hy => h y (List.mem_cons_of_mem _ hy)
    obtain ⟨point, on⟩ := x
    have hoff : on = false := h _ List.mem_cons_self
    subst hoff
    exact Store.setFault_off hs point

theorem Calm.current (h : f.Calm) : f.current.faults = .none := by
  refine switch_faults_none h.faults ?_
  cases hf : f.ahead with
  | nil => simp
  | cons switches rest => exact h.ahead switches (by simp [hf])

theorem Calm.answer (h : f.Calm) (c : Call) : (f.answer c).2.Calm where
  faults := by
    change (Store.answer c f.current).2.faults = .none
    rw [Store.answer_faults, h.current]
  ahead switches hs := h.ahead switches (List.mem_of_mem_tail hs)

theorem Calm.run (h : f.Calm) (p : Program α) : (p.run Flickering.answer f).2.Calm :=
  Program.run_preserves (P := Flickering.Calm) (fun c _ hf => hf.answer c) p h

/-! ### The calls of a transaction -/

theorem Calm.begin (h : f.Calm) (ht : f.store.transaction = none) : ∃ g : Flickering,
    f.answer .beginTransaction = (.ok (), g) ∧ g.Calm ∧ g.store.Holds f.store default := by
  have hfree : f.current.Frees f.store := Store.Frees.switch ⟨⟨rfl, rfl⟩, ht⟩ _
  obtain ⟨s₁, hbegin, hs₁⟩ := hfree.begin
  have hcalm := h.answer .beginTransaction
  simp only [Flickering.answer, hbegin] at hcalm ⊢
  exact ⟨_, rfl, hcalm, hs₁⟩

theorem Calm.exists (h : f.Calm) (hf : f.store.Holds s t) (o : OrganizationId) : ∃ g : Flickering,
    f.answer (.workspaceExists o) = (.ok (s.hasWorkspace t o), g) ∧ g.Calm ∧ g.store.Holds s t := by
  have hcur : f.current.Holds s t := hf.switch _
  have hcalm := h.answer (.workspaceExists o)
  simp only [Flickering.answer, hcur.exists] at hcalm ⊢
  exact ⟨_, rfl, hcalm, hcur⟩

theorem Calm.create (h : f.Calm) (hf : f.store.Holds s t) {w : Workspace}
    (hw : s.hasWorkspace t w.organizationId = false) : ∃ g : Flickering,
    f.answer (.createWorkspace w) = (.ok (), g) ∧ g.Calm ∧
      g.store.Holds s { t with workspaces := t.workspaces.insert w.organizationId w } := by
  have hcur : f.current.Holds s t := hf.switch _
  have hcalm := h.answer (.createWorkspace w)
  have hstage := stageWorkspace_eq_ok_iff.mpr
    ⟨by rw [h.current]; rfl, by rw [hcur.same.hasWorkspace, hw], rfl⟩
  rcases hcur.create w with ⟨e, he⟩ | ⟨-, s₁, he, hs₁⟩
  · cases he.symm.trans (Store.stage_ok hcur.transaction hstage)
  · simp only [Flickering.answer, he] at hcalm ⊢
    exact ⟨_, rfl, hcalm, hs₁⟩

theorem Calm.mark (h : f.Calm) (hf : f.store.Holds s t) {id : EventId} (time : Instant)
    (hpending : ∃ e, s.event? id = some e ∧ e.isPending = true)
    (hfresh : t.published.find? id = none) : ∃ g : Flickering,
    f.answer (.markPublished id time) = (.ok (), g) ∧ g.Calm ∧
      g.store.Holds s { t with published := t.published.insert id time } := by
  have hcur : f.current.Holds s t := hf.switch _
  have hcalm := h.answer (.markPublished id time)
  have hstage : f.current.stagePublication t id time = .ok _ := stagePublication_eq_ok_iff.mpr
    ⟨by rw [h.current]; rfl, by rw [Store.event?, hcur.same.1]; exact hpending, hfresh, rfl⟩
  rcases hcur.mark id time with ⟨e, he⟩ | ⟨-, s₁, he, hs₁⟩
  · cases he.symm.trans (Store.stage_ok hcur.transaction hstage)
  · simp only [Flickering.answer, he] at hcalm ⊢
    exact ⟨_, rfl, hcalm, hs₁⟩

theorem Calm.commit (h : f.Calm) (hf : f.store.Holds s t) :
    ∃ g : Flickering, f.answer .commit = (.ok (), g) := by
  have hcur : f.current.Holds s t := hf.switch _
  simp only [Flickering.answer, Store.answer_commit hcur.transaction]
  rcases commit_of_fits (hcur.same.fits hcur.fits) with ⟨hfault, -⟩ | ⟨-, s₁, hc, -⟩
  · rw [h.current] at hfault
    cases hfault
  · rw [hc]
    exact ⟨_, rfl⟩

/-! ### One event -/

theorem Calm.publish (h : f.Calm) (hf : f.store.Holds s t) {event : EventId}
    (hpending : ∃ e, s.event? event = some e ∧ e.isPending = true)
    (hfresh : t.published.find? event = none) (now : Instant) (effect : Effect) :
    ∃ (g : Flickering) (t' : Staged),
      (OutboxProvisioning.publish event now effect).run Flickering.answer f = (.ok effect, g) ∧
        g.Calm ∧ g.store.Holds s t' := by
  obtain ⟨g, hmark, hcalm, hg⟩ := h.mark hf now hpending hfresh
  exact ⟨g, _, by simp only [OutboxProvisioning.publish, Program.run, hmark], hcalm, hg⟩

theorem Calm.apply (h : f.Calm) (hf : f.store.Holds s default) {event : EventId}
    (hpending : ∃ e, s.event? event = some e ∧ e.isPending = true) (o : OrganizationId)
    (draw : Draw) : ∃ (effect : Effect) (g : Flickering) (t : Staged),
      (OutboxProvisioning.apply event o draw).run Flickering.answer f = (.ok effect, g) ∧
        g.Calm ∧ g.store.Holds s t := by
  obtain ⟨g, hexists, hcalm, hg⟩ := h.exists hf o
  simp only [OutboxProvisioning.apply, Program.run, hexists]
  cases hw : s.hasWorkspace default o with
  | true => exact ⟨_, hcalm.publish hg hpending rfl draw.now .alreadyProvisioned⟩
  | false =>
    obtain ⟨g', hcreate, hcalm', hg'⟩ :=
      hcalm.create (w := ⟨draw.workspaceId, o, draw.now⟩) hg hw
    simp only [Program.run, hcreate]
    exact ⟨_, hcalm'.publish hg' hpending rfl draw.now (.created draw.workspaceId)⟩

/-- **A pending event is provisioned**, if its payload names an organization. -/
theorem Calm.provisions (h : f.Calm) (ht : f.store.transaction = none) {e : Event}
    (hpending : ∃ e', f.store.event? e.id = some e' ∧ e'.isPending = true)
    (haccepted : e.isRejected = false) (draw : Draw) :
    ∃ p, (f.handle e.command draw).1.result = .ok p ∧
      Provisions e.command draw p f.store (f.handle e.command draw).2.store := by
  obtain ⟨payload, o, hsubject⟩ := e.subject_of_accepted haccepted
  obtain ⟨g, hbegin, hcalm, hg⟩ := h.begin ht
  obtain ⟨effect, g', t, happly, hcalm', hg'⟩ := hcalm.apply hg hpending o draw
  obtain ⟨g'', hcommit⟩ := hcalm'.commit hg'
  have hok : (f.handle e.command draw).1.result = .ok ⟨o, effect⟩ := by
    have happly' : (OutboxProvisioning.apply e.command.eventId o draw).run Flickering.answer g =
        (.ok effect, g') := happly
    simp only [handle, OutboxProvisioning.handle, hsubject, Program.run, hbegin, Program.run_bind,
      happly', settle, hcommit]
  -- what is left of the other case of `handle_cases` is the provisioned one
  rcases (f.handle_cases ht e.command draw).2 with ⟨⟨err, herr⟩, -⟩ | hp
  · rw [hok] at herr
    cases herr
  · exact hp

end Flickering

/-! ### Polls with nothing else happening -/

namespace Store

/-- Nobody holds the store, and no fault is on. -/
structure Calm (s : Store) : Prop where
  sound : s.Sound
  free : s.transaction = none
  faults : s.faults = .none

/-- **Work on a batch**: the events whose payloads let them are published, and all other events stay
as they are. -/
structure Serves (es : List Event) (s s' : Store) : Prop where
  published : ∀ e ∈ es, e.isRejected = false →
    ∃ time, s'.event? e.id = some (e.publishedFrom time)
  others : ∀ id, (∀ e ∈ es, e.isRejected = false → e.id ≠ id) → s'.event? id = s.event? id

theorem Calm.handle (h : s.Calm) (cmd : Command) (draw : Draw) : (s.handle cmd draw).2.Calm where
  sound := h.sound.handle cmd draw
  free := handle_transaction cmd draw s h.free
  faults := Program.run_preserves (P := fun s : Store => s.faults = .none)
    (fun c s hs => (answer_faults c s).trans hs) _ h.faults

theorem Calm.handle_event (h : s.Calm) {e : Event} (he : s.event? e.id = some e)
    (hpending : e.isPending = true) (draw : Draw) : Serves [e] s (s.handle e.command draw).2 := by
  cases hr : e.isRejected with
  | true =>
    obtain ⟨err, herr⟩ := e.subject_of_rejected hr
    have hsame : (s.handle e.command draw).2 = s := by
      rw [Store.handle, handle_run_error herr]
    rw [hsame]
    exact ⟨by simp [hr], fun _ _ => rfl⟩
  | false =>
    have hcalm : (Flickering.mk s []).Calm := ⟨h.faults, by simp⟩
    obtain ⟨p, -, hp⟩ := hcalm.provisions h.free ⟨e, he, hpending⟩ hr draw
    rw [Flickering.handle_steady] at hp
    obtain ⟨e', he', -, hafter⟩ := hp.event
    cases he.symm.trans he'
    refine ⟨?_, ?_⟩
    · simpa [hr] using ⟨draw.now, hafter⟩
    · intro id hid
      exact hp.others id (Ne.symm (hid e List.mem_cons_self hr))

theorem Calm.process (h : s.Calm) {es : List Event} (hids : (es.map Event.id).Nodup)
    (hes : ∀ e ∈ es, s.event? e.id = some e ∧ e.isPending = true) (draws : Nat → Draw)
    (first : Nat) :
    let s' := (backend.process draws first es s).2.2
    s'.Calm ∧ Serves es s s' := by
  induction es generalizing s first with
  | nil => exact ⟨h, by simp, fun _ _ => rfl⟩
  | cons e es ih =>
    obtain ⟨hfresh, hids⟩ := List.nodup_cons.mp hids
    obtain ⟨he, hpending⟩ := hes e List.mem_cons_self
    have hne : ∀ e' ∈ es, e'.id ≠ e.id := fun e' he' heq =>
      hfresh (List.mem_map.mpr ⟨e', he', heq⟩)
    have hfirst := h.handle_event he hpending (draws first)
    -- the others are as they were when the work on them begins
    obtain ⟨hcalm, hrest⟩ := ih (h.handle e.command (draws first)) hids (fun e' he' => by
      rw [hfirst.others]
      · exact hes e' (List.mem_cons_of_mem _ he')
      · simpa using fun _ => Ne.symm (hne e' he')) (first + 1)
    refine ⟨hcalm, ?_, ?_⟩
    · intro e' he' hr
      rcases List.mem_cons.mp he' with rfl | he'
      · obtain ⟨time, htime⟩ := hfirst.published e' List.mem_cons_self hr
        exact ⟨time, (hrest.others e'.id fun e'' he'' _ => hne e'' he'').trans htime⟩
      · exact hrest.published e' he' hr
    · intro id hid
      refine (hrest.others id fun e' he' => hid e' (List.mem_cons_of_mem _ he')).trans ?_
      exact hfirst.others id fun e' he' => hid e' (by simp_all)

/-- The pending events of a type, in the order in which they are fetched. -/
def queue (s : Store) (eventType : String) : List Event :=
  (s.pending eventType).mergeSort notAfter

theorem Sound.mem_queue (h : s.Sound) {eventType : String} {e : Event} :
    e ∈ s.queue eventType ↔
      s.event? e.id = some e ∧ e.isPending = true ∧ e.eventType = eventType := by
  simp [queue, Store.pending, List.mem_mergeSort, h.mem_values]

theorem Sound.queue_ids (h : s.Sound) (eventType : String) :
    ((s.queue eventType).map Event.id).Nodup := by
  have hkeys : s.events.values.map Event.id = s.events.entries.map Prod.fst := by
    rw [Table.values, List.map_map]
    exact List.map_congr_left fun x hx => h.id (Table.find?_eq_some_iff.mpr hx)
  have hpending : ((s.pending eventType).map Event.id).Nodup := by
    refine List.Nodup.sublist (List.filter_sublist.map _) ?_
    rw [hkeys]
    exact s.events.nodup
  exact ((List.mergeSort_perm _ _).map _).nodup_iff.mpr hpending

/-- **A poll publishes exactly the events of its batch that are not rejected.** -/
theorem Calm.poll (h : s.Calm) (config : ConsumerConfig) (draws : Nat → Draw) :
    let s' := (backend.poll config draws s).state
    s'.Calm ∧ Serves (s.oldest config.eventType config.batchSize) s s' := by
  have hfetch : s.faults.fetch = false := by rw [h.faults]; rfl
  have hstate : (backend.poll config draws s).state =
      (backend.process draws 0 (s.oldest config.eventType config.batchSize) s).2.2 := by
    simp [Backend.poll, Backend.pollFetched, backend, fetch, hfetch]
  rw [hstate]
  refine h.process ((h.sound.queue_ids _).sublist ((List.take_sublist _ _).map _)) ?_ draws 0
  intro e he
  obtain ⟨hstored, hpending, -⟩ := h.sound.mem_queue.mp (List.mem_of_mem_take he)
  exact ⟨hstored, hpending⟩

end Store

end OutboxProvisioning
