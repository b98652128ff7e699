import OutboxProvisioning.Proofs.Handling

/-!
# Many who share one store

Consumers and handlers take turns on a store that was empty at first. What was fetched may have been
published since, by anybody, and faults are switched at any point, also inside a transaction.

* `Shared.turn`, `Shared.poll`: the store with all that was fetched from it and all that came of it.
* `Shared.poll_turns`: a poll is a fetch and then one turn for each event.
* `Consistent`: what the store and the outcomes have in common after every turn.
* `published_with_provisioned`: **published events and workspaces go together.**
* `effect_exactly_once`: **outcomes are had once, and agree with the store.**
-/

namespace OutboxProvisioning

/-- The payload of an event names an organization. -/
def Event.Names (e : Event) (o : OrganizationId) : Prop :=
  ∃ p, Payload.decode e.payload = .ok p ∧ p.organization = .ok o

namespace EventOutcome

/-- What was provisioned for an event. -/
def provisioned? (x : EventOutcome) (id : EventId) : Option Provisioned :=
  if x.eventId = id then x.result.toOption else none

/-- The workspace that was created for an organization. -/
def created? (x : EventOutcome) (o : OrganizationId) : Option WorkspaceId :=
  match x.result with
  | .ok ⟨o', .created w⟩ => if o' = o then some w else none
  | _ => none

end EventOutcome

/-- A store, what was put into it and fetched from it, and all that came of the events. -/
structure Shared where
  store : Store
  /-- The identifiers of all events that were ever inserted. -/
  inserted : List EventId
  /-- The events of all fetches, each as it was then. -/
  fetched : List Event
  /-- What came of the events, for all who share the store. -/
  outcomes : List EventOutcome

/-- What is done while nobody else can get at the store. -/
inductive Turn
  | insert (e : Event)
  | switch (point : FaultPoint) (on : Bool)
  | fetch (eventType : String) (limit : Nat)
  /-- Handles an event that was fetched before; faults are switched between the calls. -/
  | handle (e : Event) (draw : Draw) (meanwhile : List Switches)

/-- A turn, or a poll with nobody else in between. -/
inductive Move
  | turn (t : Turn)
  | poll (config : ConsumerConfig) (draws : Nat → Draw) (meanwhile : List Switches)

namespace Shared

/-- Nothing was done yet. -/
def start : Shared := ⟨.empty, [], [], []⟩

/-- What is kept of a fetch. -/
def keep (m : Shared) : Except DomainError (List Event) → Shared
  | .ok es => { m with fetched := m.fetched ++ es }
  | .error _ => m

/-- What is kept of an event that was handled. -/
def record (m : Shared) (s : Store) (x : EventOutcome) : Shared :=
  { m with store := s, outcomes := m.outcomes ++ [x] }

/-- One turn. Only new events are inserted, pending, and only fetched ones handled. -/
def turn (m : Shared) : Turn → Shared
  | .insert e =>
    if e.isPending = true ∧ e.publishedAt = none ∧ e.id ∉ m.inserted then
      { m with store := m.store.insert e, inserted := e.id :: m.inserted }
    else m
  | .switch point on => { m with store := m.store.setFault point on }
  | .fetch eventType limit => m.keep (Store.fetch eventType limit m.store).1
  | .handle e draw meanwhile =>
    if e ∈ m.fetched then
      let (handled, f) := Flickering.handle ⟨m.store, meanwhile⟩ e.command draw
      m.record f.store ⟨e.id, handled.result⟩
    else m

/-- One poll. -/
def poll (m : Shared) (config : ConsumerConfig) (draws : Nat → Draw) (meanwhile : List Switches) :
    Shared :=
  let f : Flickering := ⟨m.store, meanwhile⟩
  let polled := Flickering.backend.poll config draws f
  let kept := m.keep (f.fetch config.eventType config.batchSize).1
  { kept with
    store := polled.state.store
    outcomes := m.outcomes ++ (polled.result.toOption.map Report.outcomes).getD [] }

/-- One move. -/
def move (m : Shared) : Move → Shared
  | .turn t => m.turn t
  | .poll config draws meanwhile => m.poll config draws meanwhile

/-- The moves of a run, one after another. -/
def run (moves : List Move) : Shared := moves.foldl move start

/-- What was provisioned for an event, each time. -/
def provisioned (m : Shared) (id : EventId) : List Provisioned :=
  m.outcomes.filterMap (·.provisioned? id)

/-- The workspaces that were created for an organization. -/
def created (m : Shared) (o : OrganizationId) : List WorkspaceId :=
  m.outcomes.filterMap (·.created? o)

/-! ### Polls are turns -/

variable {m : Shared}

/-- The work on a batch is one turn for each event. -/
theorem process_turns (draws : Nat → Draw) (first : Nat) {es : List Event}
    (hes : ∀ e ∈ es, e ∈ m.fetched) (meanwhile : List Switches) :
    let r := Flickering.backend.process draws first es ⟨m.store, meanwhile⟩
    ∃ turns : List Turn, turns.foldl turn m =
      { m with store := r.2.2.store, outcomes := m.outcomes ++ r.1 } := by
  induction es generalizing m first meanwhile with
  | nil =>
    refine ⟨[], ?_⟩
    simp [Backend.process]
  | cons e es ih =>
    let done := Flickering.handle ⟨m.store, meanwhile⟩ e.command (draws first)
    have hturn : m.turn (.handle e (draws first) meanwhile) =
        m.record done.2.store ⟨e.id, done.1.result⟩ := if_pos (hes e List.mem_cons_self)
    -- the switches that are left over come before the calls for the next event
    obtain ⟨turns, hturns⟩ := ih (m := m.record done.2.store ⟨e.id, done.1.result⟩) (first + 1)
      (fun e' he' => hes e' (List.mem_cons_of_mem _ he')) done.2.ahead
    refine ⟨.handle e (draws first) meanwhile :: turns, ?_⟩
    rw [List.foldl_cons, hturn, hturns]
    simp [record, done, Backend.process, Flickering.backend, Flickering.handle]

/-- Switches are turns. -/
theorem switch_turns (m : Shared) (switches : Switches) : ∃ turns : List Turn,
    turns.foldl turn m = { m with store := m.store.switch switches } := by
  induction switches generalizing m with
  | nil => exact ⟨[], rfl⟩
  | cons x rest ih =>
    obtain ⟨turns, h⟩ := ih (m.turn (.switch x.1 x.2))
    exact ⟨.switch x.1 x.2 :: turns, h⟩

/-- A poll is a fetch and then one turn for each event. -/
theorem poll_turns (m : Shared) (config : ConsumerConfig) (draws : Nat → Draw)
    (meanwhile : List Switches) :
    ∃ turns : List Turn, turns.foldl turn m = m.poll config draws meanwhile := by
  obtain ⟨before, hbefore⟩ := m.switch_turns (meanwhile.headD [])
  cases hf : (Store.fetch config.eventType config.batchSize
      (m.store.switch (meanwhile.headD []))).1 with
  | error e =>
    refine ⟨before, ?_⟩
    rw [hbefore]
    simp only [poll, Flickering.fetch, Flickering.current, Flickering.backend, Backend.poll,
      Backend.pollFetched, hf, keep, Except.toOption, Option.map_none, Option.getD_none,
      List.append_nil]
  | ok es =>
    let kept : Shared := { m with
      store := m.store.switch (meanwhile.headD [])
      fetched := m.fetched ++ es }
    obtain ⟨turns, hturns⟩ := process_turns (m := kept) draws 0
      (fun e he => List.mem_append_right _ he) meanwhile.tail
    refine ⟨before ++ .fetch config.eventType config.batchSize :: turns, ?_⟩
    have hkept : ({ m with store := m.store.switch (meanwhile.headD []) } : Shared).turn
        (.fetch config.eventType config.batchSize) = kept := by
      simp only [turn, hf, keep, kept]
    rw [List.foldl_append, hbefore, List.foldl_cons, hkept, hturns]
    simp only [poll, Flickering.fetch, Flickering.current, Flickering.backend, Backend.poll,
      Backend.pollFetched, hf, keep, Except.toOption, Option.map_some, Option.getD_some, kept]

/-- **All moves are turns**, polls included. -/
theorem move_turns (m : Shared) (moves : List Move) :
    ∃ turns : List Turn, turns.foldl turn m = moves.foldl move m := by
  induction moves generalizing m with
  | nil => exact ⟨[], rfl⟩
  | cons x rest ih =>
    obtain ⟨turns, hturns⟩ := ih (m.move x)
    cases x with
    | turn t => exact ⟨t :: turns, hturns⟩
    | poll config draws meanwhile =>
      obtain ⟨first, hfirst⟩ := m.poll_turns config draws meanwhile
      refine ⟨first ++ turns, ?_⟩
      rw [List.foldl_append, hfirst]
      exact hturns

/-- **What every turn keeps, all moves keep.** -/
theorem run_preserves {P : Shared → Prop} (hstart : P start) (h : ∀ m t, P m → P (m.turn t))
    (moves : List Move) : P (run moves) := by
  obtain ⟨turns, hturns⟩ := start.move_turns moves
  have hfold : ∀ m, P m → P (turns.foldl turn m) := by
    clear hturns
    induction turns with
    | nil => exact fun m hm => hm
    | cons t rest ih => exact fun m hm => ih _ (h m t hm)
  rw [run, ← hturns]
  exact hfold _ hstart

theorem record_provisioned (m : Shared) (s : Store) (x : EventOutcome) (id : EventId) :
    (m.record s x).provisioned id = m.provisioned id ++ (x.provisioned? id).toList := by
  unfold provisioned record
  rw [List.filterMap_append]
  cases hx : x.provisioned? id <;> simp [hx]

theorem record_created (m : Shared) (s : Store) (x : EventOutcome) (o : OrganizationId) :
    (m.record s x).created o = m.created o ++ (x.created? o).toList := by
  unfold created record
  rw [List.filterMap_append]
  cases hx : x.created? o <;> simp [hx]

/-! ### What the store and the outcomes have in common -/

end Shared

/-- Whether a stored event is published. -/
def Store.isPublished (s : Store) (id : EventId) : Bool := (s.event? id).any Event.published

/-- **What holds of the store, the fetched events and the outcomes after every turn.** -/
structure Consistent (m : Shared) : Prop where
  sound : m.store.Sound
  free : m.store.transaction = none
  inserted : ∀ {id e}, m.store.event? id = some e → id ∈ m.inserted
  fetched : ∀ {e}, e ∈ m.fetched → ∃ e', m.store.event? e.id = some e' ∧ e'.payload = e.payload
  subject : ∀ {id e}, m.store.event? id = some e → e.published = true →
    ∃ o w, e.Names o ∧ m.store.workspace? o = some w
  origin : ∀ {o w}, m.store.workspace? o = some w → ∃ id e, m.store.event? id = some e ∧
    e.published = true ∧ e.Names o ∧ e.publishedAt = some w.createdAt
  provisioned : ∀ id, (m.provisioned id).length = if m.store.isPublished id then 1 else 0
  created : ∀ o, m.created o = ((m.store.workspace? o).map Workspace.id).toList

variable {m : Shared} {s s' : Store} {cmd : Command} {draw : Draw} {p : Provisioned}

namespace Store

theorem isPublished_iff {id : EventId} :
    s.isPublished id = true ↔ ∃ e, s.event? id = some e ∧ e.published = true := by
  simp [isPublished, Option.any_eq_true]

theorem Same.event (h : s.Same s') (id : EventId) : s'.event? id = s.event? id := by
  rw [event?, event?, h.1]

theorem Same.workspace (h : s.Same s') (o : OrganizationId) : s'.workspace? o = s.workspace? o := by
  rw [workspace?, workspace?, h.2]

theorem Same.isPublished (h : s.Same s') (id : EventId) : s'.isPublished id = s.isPublished id := by
  rw [Store.isPublished, Store.isPublished, h.event]

/-- Free stores that hold the same differ in their faults at most. -/
theorem Same.eq_of_free (h : s.Same s') (hs : s.transaction = none) (hs' : s'.transaction = none) :
    s' = { s with faults := s'.faults } := by
  obtain ⟨hevents, hworkspaces⟩ := h
  obtain ⟨events, workspaces, faults, transaction⟩ := s'
  subst hevents hworkspaces hs'
  rw [hs]

theorem Sound.switch (h : s.Sound) (switches : Switches) : (s.switch switches).Sound := by
  unfold Store.switch
  induction switches generalizing s with
  | nil => exact h
  | cons x rest ih => exact ih (h.setFault x.1 x.2)

/-- What is fetched stands in the store under its own identifier. -/
theorem Sound.oldest (h : s.Sound) {eventType : String} {limit : Nat} {e : Event}
    (he : e ∈ s.oldest eventType limit) : s.event? e.id = some e := by
  have hpending : e ∈ s.pending eventType := List.mem_mergeSort.mp (List.mem_of_mem_take he)
  exact h.mem_values.mp (List.mem_filter.mp hpending).1

end Store

theorem Flickering.handle_sound {f : Flickering} (h : f.store.Sound) (cmd : Command)
    (draw : Draw) : (f.handle cmd draw).2.store.Sound :=
  Program.run_preserves (P := fun f : Flickering => f.store.Sound)
    (fun c _ hf => (hf.switch _).answer c) _ h

namespace Provisions

/-- Nothing is taken from the store. -/
theorem event_mono (h : Provisions cmd draw p s s') {id : EventId} {e : Event}
    (he : s.event? id = some e) : ∃ e', s'.event? id = some e' ∧ e'.payload = e.payload := by
  by_cases hid : id = cmd.eventId
  · subst hid
    obtain ⟨e', he', -, hafter⟩ := h.event
    rw [he] at he'
    cases he'
    exact ⟨_, hafter, rfl⟩
  · exact ⟨e, by rw [h.others id hid, he], rfl⟩

theorem workspace_mono (h : Provisions cmd draw p s s') {o : OrganizationId} {w : Workspace}
    (hw : s.workspace? o = some w) : s'.workspace? o = some w := by
  by_cases ho : o = p.organizationId
  · subst ho
    rcases h.workspace with ⟨-, -, hsame⟩ | ⟨-, hnone, -⟩
    · rw [hsame, hw]
    · rw [hnone] at hw
      cases hw
  · rw [h.otherWorkspaces o ho, hw]

/-- The organization has a workspace afterwards. -/
theorem workspace_exists (h : Provisions cmd draw p s s') :
    ∃ w, s'.workspace? p.organizationId = some w := by
  rcases h.workspace with ⟨-, hsome, hsame⟩ | ⟨-, -, hnew⟩
  · rw [hsame]
    exact Option.isSome_iff_exists.mp hsome
  · exact ⟨_, hnew⟩

/-- An event that was published before stays as it was. -/
theorem published_stays (h : Provisions cmd draw p s s') {id : EventId} {e : Event}
    (he : s.event? id = some e) (hp : e.published = true) : s'.event? id = some e := by
  -- the one that is published now was pending
  have hid : id ≠ cmd.eventId := by
    rintro rfl
    obtain ⟨e', he', hpending, -⟩ := h.event
    rw [he] at he'
    cases he'
    simp [Event.isPending, hp] at hpending
  rw [h.others id hid, he]

theorem isPublished_self (h : Provisions cmd draw p s s') :
    s.isPublished cmd.eventId = false ∧ s'.isPublished cmd.eventId = true := by
  obtain ⟨e, he, hpending, hafter⟩ := h.event
  simp only [Event.isPending, Bool.not_eq_true'] at hpending
  simp [Store.isPublished, he, hafter, hpending, Event.publishedFrom]

theorem isPublished_of_ne (h : Provisions cmd draw p s s') {id : EventId}
    (hid : id ≠ cmd.eventId) : s'.isPublished id = s.isPublished id := by
  rw [Store.isPublished, Store.isPublished, h.others id hid]

/-- A workspace was there before, or has the time of this attempt. -/
theorem workspace_origin (h : Provisions cmd draw p s s') {o : OrganizationId} {w : Workspace}
    (hw : s'.workspace? o = some w) :
    s.workspace? o = some w ∨ o = p.organizationId ∧ w.createdAt = draw.now := by
  by_cases ho : o = p.organizationId
  · subst ho
    rcases h.workspace with ⟨-, -, hsame⟩ | ⟨-, -, hnew⟩
    · exact .inl (hsame ▸ hw)
    · rw [hnew] at hw
      cases hw
      exact .inr ⟨rfl, rfl⟩
  · exact .inl (h.otherWorkspaces o ho ▸ hw)

/-- The outcome is one more for the event that is published by it. -/
theorem provisioned_count (h : Provisions cmd draw p s s') (id : EventId) :
    (if s.isPublished id then 1 else 0) +
        ((⟨cmd.eventId, .ok p⟩ : EventOutcome).provisioned? id).toList.length =
      if s'.isPublished id then 1 else 0 := by
  by_cases hid : cmd.eventId = id
  · subst hid
    obtain ⟨hbefore, hafter⟩ := h.isPublished_self
    simp [hbefore, hafter, EventOutcome.provisioned?, Except.toOption]
  · rw [h.isPublished_of_ne (Ne.symm hid)]
    simp [EventOutcome.provisioned?, hid]

/-- The outcome tells of the workspace that is made by it. -/
theorem created_append (h : Provisions cmd draw p s s') (o : OrganizationId) :
    ((s.workspace? o).map Workspace.id).toList ++
        ((⟨cmd.eventId, .ok p⟩ : EventOutcome).created? o).toList =
      ((s'.workspace? o).map Workspace.id).toList := by
  obtain ⟨o', effect⟩ := p
  by_cases ho : o = o'
  · subst ho
    rcases h.workspace with ⟨rfl, -, hsame⟩ | ⟨rfl, hnone, hnew⟩
    · simp [EventOutcome.created?, hsame]
    · simp [EventOutcome.created?, hnone, hnew]
  · rw [h.otherWorkspaces o ho]
    cases effect <;> simp [EventOutcome.created?, Ne.symm ho]

end Provisions

namespace Consistent

theorem start : Consistent .start where
  sound := .empty
  free := rfl
  inserted h := by cases h
  fetched h := by cases h
  subject h := by cases h
  origin h := by cases h
  provisioned _ := rfl
  created _ := rfl

/-- A new event has no part in what was done so far. -/
theorem insert (h : Consistent m) {e : Event} (hpending : e.isPending = true)
    (hnew : e.id ∉ m.inserted) :
    Consistent { m with store := m.store.insert e, inserted := e.id :: m.inserted } := by
  have hevent : ∀ id, (m.store.insert e).event? id =
      if id = e.id then some e else m.store.event? id :=
    fun id => Table.find?_insert m.store.events e.id id e
  -- what is stored was inserted, and so under another identifier
  have hne : ∀ {id e'}, m.store.event? id = some e' → id ≠ e.id := by
    rintro id e' he' rfl
    exact hnew (h.inserted he')
  have hkept : ∀ {id e'}, m.store.event? id = some e' → (m.store.insert e).event? id = some e' := by
    intro id e' he'
    rw [hevent, if_neg (hne he'), he']
  refine ⟨h.sound.insert h.free e, h.free, ?_, ?_, ?_, ?_, ?_, h.created⟩
  · intro id e' he'
    rw [hevent] at he'
    split at he'
    · subst id
      exact List.mem_cons_self
    · exact List.mem_cons_of_mem _ (h.inserted he')
  · intro e' he'
    obtain ⟨e'', hstored, hpayload⟩ := h.fetched he'
    exact ⟨e'', hkept hstored, hpayload⟩
  · intro id e' he' hp
    rw [hevent] at he'
    split at he'
    · cases he'
      simp [Event.isPending, hp] at hpending
    · exact h.subject he' hp
  · intro o w hw
    obtain ⟨id, e', he', hrest⟩ := h.origin hw
    exact ⟨id, e', hkept he', hrest⟩
  · intro id
    have hsame : (m.store.insert e).isPublished id = m.store.isPublished id := by
      rw [Store.isPublished, Store.isPublished, hevent]
      split
      · subst id
        cases he' : m.store.event? e.id with
        | none => simpa [Event.isPending] using hpending
        | some e' => exact absurd rfl (hne he')
      · rfl
    change (m.provisioned id).length = _
    rw [hsame]
    exact h.provisioned id

/-- Only what the store holds matters, if it is free. -/
theorem of_same (h : Consistent m) (hs : m.store.Same s) (hsound : s.Sound)
    (hfree : s.transaction = none) : Consistent { m with store := s } where
  sound := hsound
  free := hfree
  inserted he := h.inserted (hs.event _ ▸ he)
  fetched he := by rw [hs.event]; exact h.fetched he
  subject he hp := by
    rw [hs.event] at he
    obtain ⟨o, w, ho, hw⟩ := h.subject he hp
    exact ⟨o, w, ho, by rw [hs.workspace, hw]⟩
  origin hw := by
    rw [hs.workspace] at hw
    obtain ⟨id, e, he, hrest⟩ := h.origin hw
    exact ⟨id, e, by rw [hs.event, he], hrest⟩
  provisioned id := by
    change (m.provisioned id).length = _
    rw [hs.isPublished]
    exact h.provisioned id
  created o := by
    change m.created o = _
    rw [hs.workspace]
    exact h.created o

theorem keep (h : Consistent m) {r : Except DomainError (List Event)}
    (hr : ∀ es, r = .ok es → ∀ e ∈ es, m.store.event? e.id = some e) : Consistent (m.keep r) := by
  cases r with
  | error e => exact h
  | ok es =>
    refine ⟨h.sound, h.free, h.inserted, ?_, h.subject, h.origin, h.provisioned, h.created⟩
    intro e he
    rcases List.mem_append.mp he with he | he
    · exact h.fetched he
    · exact ⟨e, hr es rfl e he, rfl⟩

/-- An attempt that failed counts for nothing. -/
theorem failed (h : Consistent m) (id : EventId) (e : ProvisioningError) :
    Consistent (m.record m.store ⟨id, .error e⟩) := by
  refine ⟨h.sound, h.free, h.inserted, h.fetched, h.subject, h.origin, ?_, ?_⟩
  · intro id'
    have hnone : (⟨id, .error e⟩ : EventOutcome).provisioned? id' = none := by
      simp [EventOutcome.provisioned?, Except.toOption]
    rw [Shared.record_provisioned, hnone, Option.toList_none, List.append_nil]
    exact h.provisioned id'
  · intro o
    rw [Shared.record_created, EventOutcome.created?, Option.toList_none, List.append_nil]
    exact h.created o

/-- **An event that is provisioned** brings its outcome, its publication and the workspace of its
organization together. -/
theorem succeeded (h : Consistent m) {e : Event} (he : e ∈ m.fetched)
    (hp : Provisions e.command draw p m.store s) (hsound : s.Sound) (hfree : s.transaction = none) :
    Consistent (m.record s ⟨e.id, .ok p⟩) := by
  obtain ⟨stored, hstored, hpayload⟩ := h.fetched he
  -- the stored event has the payload of the fetched one, and so names the same organization
  obtain ⟨payload, hdecode, ho⟩ := hp.names
  have hnames : (stored.publishedFrom draw.now).Names p.organizationId :=
    ⟨payload, (congrArg Payload.decode hpayload).trans hdecode, ho⟩
  have hafter : s.event? e.id = some (stored.publishedFrom draw.now) := by
    obtain ⟨e', he', -, hafter⟩ := hp.event
    cases hstored.symm.trans he'
    exact hafter
  refine ⟨hsound, hfree, ?_, ?_, ?_, ?_, ?_, ?_⟩
  · intro id e' he'
    by_cases hid : id = e.id
    · subst hid
      exact h.inserted hstored
    · exact h.inserted (hp.others id hid ▸ he')
  · intro e' he'
    obtain ⟨e₁, hstored₁, hpayload₁⟩ := h.fetched he'
    obtain ⟨e₂, hstored₂, hpayload₂⟩ := hp.event_mono hstored₁
    exact ⟨e₂, hstored₂, hpayload₂.trans hpayload₁⟩
  · intro id e' he' hpublished
    by_cases hid : id = e.id
    · subst hid
      cases hafter.symm.trans he'
      obtain ⟨w, hw⟩ := hp.workspace_exists
      exact ⟨_, w, hnames, hw⟩
    · obtain ⟨o, w, ho, hw⟩ := h.subject (hp.others id hid ▸ he') hpublished
      exact ⟨o, w, ho, hp.workspace_mono hw⟩
  · intro o w hw
    rcases hp.workspace_origin hw with hold | ⟨rfl, htime⟩
    · obtain ⟨id, e', he', hpublished, hrest⟩ := h.origin hold
      exact ⟨id, e', hp.published_stays he' hpublished, hpublished, hrest⟩
    · exact ⟨e.id, _, hafter, rfl, hnames, congrArg some htime.symm⟩
  · intro id
    rw [Shared.record_provisioned, List.length_append, h.provisioned]
    exact hp.provisioned_count id
  · intro o
    rw [Shared.record_created, h.created]
    exact hp.created_append o

/-- **One turn.** -/
theorem turn (h : Consistent m) (t : Turn) : Consistent (m.turn t) := by
  cases t with
  | insert e =>
    simp only [Shared.turn]
    split
    · rename_i hnew
      exact h.insert hnew.1 hnew.2.2
    · exact h
  | switch point on => exact h.of_same ⟨rfl, rfl⟩ (h.sound.setFault point on) h.free
  | fetch eventType limit =>
    refine h.keep ?_
    intro es hes e he
    unfold Store.fetch at hes
    split at hes
    · cases hes
    · cases hes
      exact h.sound.oldest he
  | handle e draw meanwhile =>
    simp only [Shared.turn]
    split
    · rename_i he
      let f : Flickering := ⟨m.store, meanwhile⟩
      have hsound : (f.handle e.command draw).2.store.Sound := Flickering.handle_sound h.sound _ _
      obtain ⟨hfree, ⟨⟨err, herr⟩, hsame⟩ | ⟨p, hok, hp⟩⟩ := f.handle_cases h.free e.command draw
      · have := (h.of_same hsame hsound hfree).failed e.id err
        rw [← herr] at this
        exact this
      · have := h.succeeded he hp hsound hfree
        rw [← hok] at this
        exact this
    · exact h

/-- **Any number of moves**, polls included. -/
theorem run (moves : List Move) : Consistent (.run moves) :=
  Shared.run_preserves start (fun _ t h => h.turn t) moves

end Consistent

namespace Shared

/-- Outcomes are never taken back. -/
theorem turn_outcomes (m : Shared) (t : Turn) : m.outcomes <+: (m.turn t).outcomes := by
  cases t with
  | insert e =>
    simp only [turn]
    split <;> exact List.prefix_rfl
  | switch point on => exact List.prefix_rfl
  | fetch eventType limit =>
    simp only [turn]
    cases (Store.fetch eventType limit m.store).1 <;> exact List.prefix_rfl
  | handle e draw meanwhile =>
    simp only [turn]
    split
    · exact List.prefix_append _ _
    · exact List.prefix_rfl

theorem run_outcomes (moves more : List Move) :
    (run moves).outcomes <+: (run (moves ++ more)).outcomes := by
  obtain ⟨turns, hturns⟩ := (run moves).move_turns more
  have hfold : ∀ m : Shared, m.outcomes <+: (turns.foldl turn m).outcomes := by
    clear hturns
    induction turns with
    | nil => exact fun m => List.prefix_rfl
    | cons t rest ih => exact fun m => (m.turn_outcomes t).trans (ih _)
  rw [run, run, List.foldl_append]
  exact hturns ▸ hfold _

/-- **Published events and workspaces go together**: whoever did what before, the payload of a
published event names an organization with a workspace, and a workspace was made by an event that
names its organization and was published at that time. -/
theorem published_with_provisioned (moves : List Move) :
    let s := (run moves).store
    (∀ id e, s.event? id = some e → e.published = true →
      ∃ o w, e.Names o ∧ s.workspace? o = some w) ∧
    ∀ o w, s.workspace? o = some w → ∃ id e, s.event? id = some e ∧ e.published = true ∧
      e.Names o ∧ e.publishedAt = some w.createdAt := by
  have h := Consistent.run moves
  exact ⟨fun _ _ => h.subject, fun _ _ => h.origin⟩

/-- An attempt on an event that is published already fails and changes nothing. -/
theorem handle_published (h : Consistent m) {e : Event} (he : e ∈ m.fetched)
    (hp : m.store.isPublished e.id = true) (draw : Draw) (meanwhile : List Switches) :
    let m' := m.turn (.handle e draw meanwhile)
    (∃ err, m'.outcomes = m.outcomes ++ [⟨e.id, .error err⟩]) ∧
      m'.store = { m.store with faults := m'.store.faults } := by
  let f : Flickering := ⟨m.store, meanwhile⟩
  have hturn : m.turn (.handle e draw meanwhile) = m.record (f.handle e.command draw).2.store
      ⟨e.id, (f.handle e.command draw).1.result⟩ := if_pos he
  rw [hturn]
  obtain ⟨hfree, ⟨⟨err, herr⟩, hsame⟩ | ⟨p, -, hprovisions⟩⟩ :=
    f.handle_cases h.free e.command draw
  · exact ⟨⟨err, by rw [← herr]; rfl⟩, hsame.eq_of_free h.free hfree⟩
  · -- it would have been pending
    have hpending : m.store.isPublished e.id = false := hprovisions.isPublished_self.1
    rw [hpending] at hp
    cases hp

/-- **Effects happen exactly once**, in whichever order all take turns: an event was provisioned
once if it is published and else never; a workspace was created once if it is there and else never,
and it stays. All other attempts on a published event fail and change nothing. -/
theorem effect_exactly_once (moves more : List Move) :
    let m := run moves
    let later := (run (moves ++ more)).store
    (∀ id, (m.provisioned id).length ≤ 1 ∧
      ((m.provisioned id).length = 1 ↔ ∃ e, m.store.event? id = some e ∧ e.published = true)) ∧
    (∀ o, (m.created o).length ≤ 1 ∧
      ((m.created o).length = 1 ↔ ∃ w, m.store.workspace? o = some w) ∧
      ∀ id ∈ m.created o, ∃ w, later.workspace? o = some w ∧ w.id = id) ∧
    ∀ e ∈ m.fetched, (∃ e', m.store.event? e.id = some e' ∧ e'.published = true) →
      ∀ draw meanwhile,
        let m' := m.turn (.handle e draw meanwhile)
        (∃ err, m'.outcomes = m.outcomes ++ [⟨e.id, .error err⟩]) ∧
          m'.store = { m.store with faults := m'.store.faults } := by
  have h := Consistent.run moves
  refine ⟨?_, ?_, ?_⟩
  · intro id
    rw [h.provisioned, ← Store.isPublished_iff]
    cases (run moves).store.isPublished id <;> simp
  · intro o
    refine ⟨?_, ?_, ?_⟩
    · rw [h.created]
      cases (run moves).store.workspace? o <;> simp
    · rw [h.created]
      cases (run moves).store.workspace? o <;> simp
    · intro id hid
      have hlater : id ∈ (run (moves ++ more)).created o :=
        ((run_outcomes moves more).filterMap _).subset hid
      rw [(Consistent.run (moves ++ more)).created] at hlater
      simpa using hlater
  · intro e he hp draw meanwhile
    exact handle_published h he (Store.isPublished_iff.mpr hp) draw meanwhile

/-- Three attempts on one event: the first cannot be committed, and the last comes too late. -/
example :
    let e : Event := { (default : Event) with
      eventType := organizationCreated
      payload := (("\x7b\"organization_id\":" ++
        "\"018f2b1c-7a6d-7c3e-9d2a-0d9b8c7a6e5f\"\x7d").toUTF8).toList }
    let m := run [.turn (.insert e), .turn (.fetch organizationCreated 5),
      .turn (.handle e default [[], [], [], [], [(.commit, true)]]), .turn (.switch .commit false),
      .turn (.handle e default []), .turn (.handle e default [])]
    m.outcomes.map (fun x => x.result.isOk) = [false, true, false] ∧
      m.store.workspaceCount = 1 := by
  decide +kernel

end Shared

end OutboxProvisioning
