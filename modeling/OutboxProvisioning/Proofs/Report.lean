import OutboxProvisioning.Proofs.Serial
import OutboxProvisioning.Proofs.Calm
import OutboxProvisioning.Proofs.Verdict

/-!
# What a poll reports

A poll handles the events of its batch one after another, each in the store that the others before
it have left. Its report says what came of each, and tells all that has changed in the store.

* `Store.Handles`: one event after another.
* `Store.Course`: what each of them can do to the store.
* `Store.Course.becomes`: an event is as before, or is published and has an outcome that says so.
* `Report.Accounts`: what a report says about the store before and after.
* `poll_reported`: **a poll fails with its fetch and changes nothing, or accounts for all that it
  did.**
-/

namespace OutboxProvisioning

/-- Whether a workspace was created. -/
def EventOutcome.isCreation (x : EventOutcome) : Bool :=
  match x.result with
  | .ok ⟨_, .created _⟩ => true
  | _ => false

variable {s s' : Store} {id : EventId} {e : Event} {o o' : OrganizationId} {draws : Nat → Draw}
  {n : Nat} {es : List Event} {outcomes : List EventOutcome}

namespace Store

/-- **One event after another**, each handled in the store that those before it have left. -/
inductive Handles (draws : Nat → Draw) :
    Nat → Store → List Event → List EventOutcome → Store → Prop
  | nil (n : Nat) (s : Store) : Handles draws n s [] [] s
  | cons {n : Nat} {s s' : Store} {e : Event} {es : List Event} {outcomes : List EventOutcome}
      (rest : Handles draws (n + 1) (s.handle e.command (draws n)).2 es outcomes s') :
      Handles draws n s (e :: es)
        (⟨e.id, (s.handle e.command (draws n)).1.result⟩ :: outcomes) s'

/-- The work on a batch is that. -/
theorem process_handles (draws : Nat → Draw) (n : Nat) (es : List Event) (s : Store) :
    let r := backend.process draws n es s
    Handles draws n s es r.1 r.2.2 := by
  induction es generalizing n s with
  | nil => exact .nil n s
  | cons e es ih => exact .cons (ih (n + 1) _)

/-! ### One event -/

/-- A command that is carried out leaves one event less pending. -/
theorem provisioned_pendingCount (he : s.event? id = some e) (hp : e.isPending = true)
    (o : OrganizationId) (draw : Draw) :
    (s.provisioned id e o draw).pendingCount + 1 = s.pendingCount := by
  have hcount := Table.countP_insert (v := e.publishedFrom draw.now) he Event.isPending
  have hpublished : (e.publishedFrom draw.now).isPending = false := rfl
  rw [hp, hpublished] at hcount
  simpa [pendingCount, ← List.countP_eq_length_filter, provisioned] using hcount

/-- It leaves one workspace more, if the organization had none. -/
theorem provisioned_workspaceCount (s : Store) (id : EventId) (e : Event) (o : OrganizationId)
    (draw : Draw) : (s.provisioned id e o draw).workspaceCount =
      s.workspaceCount + if s.workspace? o = none then 1 else 0 := by
  unfold workspaceCount provisioned additions
  by_cases hw : s.workspace? o = none
  · rw [if_pos hw, if_pos hw]
    exact Table.size_insert_of_none hw _
  · rw [if_neg hw, if_neg hw]
    rfl

theorem isCreation_effectFor (s : Store) (id : EventId) (o : OrganizationId) (draw : Draw) :
    EventOutcome.isCreation ⟨id, .ok ⟨o, s.effectFor o draw⟩⟩ = decide (s.workspace? o = none) := by
  unfold effectFor
  by_cases hw : s.workspace? o = none <;> simp [hw, EventOutcome.isCreation]

/-- An organization keeps its workspace, and has one after an event of its own. -/
theorem provisioned_workspace_ne_none (id : EventId) (e : Event) (o : OrganizationId) (draw : Draw)
    (h : o' = o ∨ s.workspace? o' ≠ none) : (s.provisioned id e o draw).workspace? o' ≠ none := by
  rw [provisioned_workspace]
  by_cases hw : s.workspace? o = none ∧ o' = o
  · simp [hw]
  · rw [if_neg hw]
    rcases h with rfl | h
    · exact fun hnone => hw ⟨hnone, rfl⟩
    · exact h

/-! ### One after another -/

/-- **The course of a batch** in a free store: an event fails and leaves the store as it was, or it is
carried out. -/
inductive Course : Store → List EventOutcome → Store → Prop
  | done (s : Store) : Course s [] s
  | failed {s s' : Store} {outcomes : List EventOutcome} (id : EventId) (err : ProvisioningError)
      (rest : Course s outcomes s') : Course s (⟨id, .error err⟩ :: outcomes) s'
  | provisioned {s s' : Store} {outcomes : List EventOutcome} {id : EventId} {e : Event}
      (he : s.event? id = some e) (hp : e.isPending = true) (o : OrganizationId) (draw : Draw)
      (rest : Course (s.provisioned id e o draw) outcomes s') :
      Course s (⟨id, .ok ⟨o, s.effectFor o draw⟩⟩ :: outcomes) s'

theorem Handles.course (h : Handles draws n s es outcomes s') (hfree : s.transaction = none) :
    Course s outcomes s' := by
  induction h with
  | nil n s => exact .done s
  | @cons n s s' e es outcomes rest ih =>
    have hrest := ih (handle_transaction _ _ _ hfree)
    rcases handle_inv hfree e.command (draws n) with
      ⟨err, log, hhandle⟩ | ⟨e', o, log, he', hp, hhandle⟩
    · rw [hhandle] at hrest ⊢
      exact .failed e.id err hrest
    · rw [hhandle] at hrest ⊢
      exact .provisioned he' hp o (draws n) hrest

theorem Handles.ids (h : Handles draws n s es outcomes s') :
    outcomes.map EventOutcome.eventId = es.map Event.id := by
  induction h with
  | nil => rfl
  | cons rest ih => rw [List.map_cons, List.map_cons, ih]

namespace Course

/-- **What becomes of an event**: nothing, and all its outcomes are errors; or it was pending and is
published, and has an outcome that says so. -/
theorem becomes (h : Course s outcomes s') (id : EventId) :
    (s'.event? id = s.event? id ∧ ∀ x ∈ outcomes, x.eventId = id → x.result.isOk = false) ∨
      ∃ e time, s.event? id = some e ∧ e.isPending = true ∧
        s'.event? id = some (e.publishedFrom time) ∧
        ∃ x ∈ outcomes, x.eventId = id ∧ x.result.isOk = true := by
  induction h with
  | done s => exact .inl ⟨rfl, by simp⟩
  | failed id' err rest ih =>
    rcases ih with ⟨hsame, hothers⟩ | ⟨e, time, he, hp, hafter, x, hx, hid, hok⟩
    · refine .inl ⟨hsame, ?_⟩
      intro x hx hid
      rcases List.mem_cons.mp hx with rfl | hx
      · rfl
      · exact hothers x hx hid
    · exact .inr ⟨e, time, he, hp, hafter, x, List.mem_cons_of_mem _ hx, hid, hok⟩
  | @provisioned s s' outcomes id' e he hp o draw rest ih =>
    rw [provisioned_event] at ih
    by_cases hid : id = id'
    · -- it is published here, and stays so since it is not pending any more
      subst hid
      rw [if_pos rfl] at ih
      refine .inr ⟨e, draw.now, he, hp, ?_, _, List.mem_cons_self, rfl, rfl⟩
      rcases ih with ⟨hsame, -⟩ | ⟨e', -, he', hagain, -⟩
      · exact hsame
      · cases he'
        cases hagain
    · rw [if_neg hid] at ih
      rcases ih with ⟨hsame, hothers⟩ | ⟨e', time, he', hp', hafter, x, hx, hxid, hok⟩
      · refine .inl ⟨hsame, ?_⟩
        intro x hx hxid
        rcases List.mem_cons.mp hx with rfl | hx
        · exact absurd hxid.symm hid
        · exact hothers x hx hxid
      · exact .inr ⟨e', time, he', hp', hafter, x, List.mem_cons_of_mem _ hx, hxid, hok⟩

/-- Each event that is published is pending no more. -/
theorem pending (h : Course s outcomes s') :
    s'.pendingCount + outcomes.countP (fun x => x.result.isOk) = s.pendingCount := by
  induction h with
  | done s => rfl
  | failed id err rest ih => simpa [Except.isOk, Except.toBool] using ih
  | provisioned he hp o draw rest ih =>
    have hcount := provisioned_pendingCount he hp o draw
    simp only [List.countP_cons, Except.isOk, Except.toBool, if_true] at ih ⊢
    omega

/-- Each workspace that is created is one more. -/
theorem workspaces (h : Course s outcomes s') :
    s'.workspaceCount = s.workspaceCount + outcomes.countP EventOutcome.isCreation := by
  induction h with
  | done s => rfl
  | failed id err rest ih => simpa [EventOutcome.isCreation] using ih
  | provisioned he hp o draw rest ih =>
    rw [ih, provisioned_workspaceCount, List.countP_cons, isCreation_effectFor]
    simp only [decide_eq_true_eq]
    omega

/-- Nothing is created for an organization that has a workspace. -/
theorem not_created (h : Course s outcomes s') (hw : s.workspace? o ≠ none) :
    ∀ x ∈ outcomes, ∀ p, x.result = .ok p → p.organizationId = o →
      p.effect = .alreadyProvisioned := by
  induction h with
  | done s => simp
  | failed id err rest ih =>
    intro x hx p hok ho
    rcases List.mem_cons.mp hx with rfl | hx
    · cases hok
    · exact ih hw x hx p hok ho
  | @provisioned s s' outcomes id e he hp o' draw rest ih =>
    intro x hx p hok ho
    rcases List.mem_cons.mp hx with rfl | hx
    · cases hok
      cases ho
      exact if_neg hw
    · exact ih (provisioned_workspace_ne_none id e o' draw (.inr hw)) x hx p hok ho

/-- **Only the first event of an organization** that is carried out creates a workspace. -/
theorem first (h : Course s outcomes s') :
    outcomes.Pairwise fun x y => ∀ p q, x.result = .ok p → y.result = .ok q →
      q.organizationId = p.organizationId → q.effect = .alreadyProvisioned := by
  induction h with
  | done s => exact .nil
  | failed id err rest ih =>
    refine .cons ?_ ih
    intro y hy p q hp
    cases hp
  | @provisioned s s' outcomes id e he hp o draw rest ih =>
    refine .cons ?_ ih
    intro y hy p q hok hq ho
    cases hok
    exact rest.not_created (provisioned_workspace_ne_none id e o draw (.inl ho)) y hy q hq rfl

end Course

/-- Why nothing can be fetched while that is made to fail. -/
def fetchFault : DomainError := .database "Simulated fetch failure"

end Store

/-! ### Reports -/

namespace Report

variable {r : Report} {x : EventOutcome}

theorem fetched_eq (r : Report) : r.fetched = r.published + r.failed := by
  obtain ⟨outcomes⟩ := r
  simp only [fetched, published, failed, failures]
  induction outcomes with
  | nil => rfl
  | cons x xs ih =>
    obtain ⟨id, result⟩ := x
    cases result with
    | ok p =>
      simp only [List.length_cons, List.filter_cons, List.filterMap_cons, Except.isOk,
        Except.toBool, if_true] at ih ⊢
      omega
    | error err =>
      simp only [List.length_cons, List.filter_cons, List.filterMap_cons, Except.isOk,
        Except.toBool, Bool.false_eq_true, if_false] at ih ⊢
      omega

theorem failures_ids (r : Report) : r.failures.map Prod.fst =
    (r.outcomes.filter fun x => !x.result.isOk).map EventOutcome.eventId := by
  obtain ⟨outcomes⟩ := r
  simp only [failures]
  induction outcomes with
  | nil => rfl
  | cons x xs ih =>
    obtain ⟨id, result⟩ := x
    cases result with
    | ok p => simpa [Except.isOk, Except.toBool] using ih
    | error err => simpa [Except.isOk, Except.toBool] using ih

theorem mem_failures {id : EventId} {err : ProvisioningError} :
    (id, err) ∈ r.failures ↔ ⟨id, .error err⟩ ∈ r.outcomes := by
  simp only [failures, List.mem_filterMap]
  constructor
  · rintro ⟨⟨id', result⟩, hx, h⟩
    cases result with
    | ok p => cases h
    | error err' =>
      cases h
      exact hx
  · exact fun hx => ⟨_, hx, rfl⟩

/-- Outcomes are found by their identifiers, since no two have the same. -/
theorem outcome?_of_mem (hids : (r.outcomes.map EventOutcome.eventId).Nodup)
    (hx : x ∈ r.outcomes) : r.outcome? x.eventId = some x := by
  obtain ⟨outcomes⟩ := r
  simp only [outcome?]
  induction outcomes with
  | nil => cases hx
  | cons y ys ih =>
    obtain ⟨hfresh, hids⟩ := List.nodup_cons.mp hids
    rcases List.mem_cons.mp hx with rfl | hx
    · simp
    · have hne : y.eventId ≠ x.eventId := fun heq =>
        hfresh (heq ▸ List.mem_map_of_mem hx)
      simpa [hne] using ih hids hx

theorem outcome?_eq_none {id : EventId} (hid : id ∉ r.outcomes.map EventOutcome.eventId) :
    r.outcome? id = none := by
  refine List.find?_eq_none.mpr ?_
  intro x hx heq
  exact hid (List.mem_map.mpr ⟨x, hx, by simpa using heq⟩)

/-- **What a report on a batch says** about the store before and after. -/
structure Accounts (r : Report) (draws : Nat → Draw) (es : List Event) (s s' : Store) : Prop where
  handled : Store.Handles draws 0 s es r.outcomes s'
  /-- There is one outcome for each event. -/
  ids : r.outcomes.map EventOutcome.eventId = es.map Event.id
  distinct : (es.map Event.id).Nodup
  published : ∀ x ∈ r.outcomes, s'.isPublished x.eventId = true ↔ x.result.isOk = true
  /-- Nothing but the publication of an event is changed. -/
  changed : ∀ x ∈ r.outcomes, x.result.isOk = true → ∃ e time, s.event? x.eventId = some e ∧
    e.isPending = true ∧ s'.event? x.eventId = some (e.publishedFrom time)
  unchanged : ∀ id, (∀ x ∈ r.outcomes, x.eventId = id → x.result.isOk = false) →
    s'.event? id = s.event? id
  counts : r.fetched = r.published + r.failed
  failures : r.failures.map Prod.fst =
    (r.outcomes.filter fun x => !x.result.isOk).map EventOutcome.eventId
  errors : ∀ id err, (id, err) ∈ r.failures ↔ ⟨id, .error err⟩ ∈ r.outcomes
  found : ∀ x ∈ r.outcomes, r.outcome? x.eventId = some x
  unknown : ∀ id, id ∉ es.map Event.id → r.outcome? id = none
  pending : s'.pendingCount + r.published = s.pendingCount
  workspaces : s'.workspaceCount = s.workspaceCount + r.outcomes.countP EventOutcome.isCreation
  /-- An organization is provisioned with its first event that goes well, or was before. -/
  first : r.outcomes.Pairwise fun x y => ∀ p q, x.result = .ok p → y.result = .ok q →
    q.organizationId = p.organizationId → q.effect = .alreadyProvisioned

end Report

/-- Work on a batch of pending events is accounted for. -/
theorem Store.Handles.accounts (h : Handles draws 0 s es outcomes s') (hfree : s.transaction = none)
    (hids : (es.map Event.id).Nodup)
    (hes : ∀ e ∈ es, s.event? e.id = some e ∧ e.isPending = true) :
    (Report.mk outcomes).Accounts draws es s s' := by
  have hcourse := h.course hfree
  have hnodup : (outcomes.map EventOutcome.eventId).Nodup := h.ids ▸ hids
  -- an outcome is the only one of its event
  have hone : ∀ x ∈ outcomes, ∀ y ∈ outcomes, y.eventId = x.eventId → y = x := by
    intro x hx y hy heq
    have hfound := Report.outcome?_of_mem (r := ⟨outcomes⟩) hnodup hy
    rw [heq, Report.outcome?_of_mem hnodup hx] at hfound
    exact (Option.some.inj hfound).symm
  have hchanged : ∀ x ∈ outcomes, x.result.isOk = true → ∃ e time, s.event? x.eventId = some e ∧
      e.isPending = true ∧ s'.event? x.eventId = some (e.publishedFrom time) := by
    intro x hx hok
    rcases hcourse.becomes x.eventId with ⟨-, hfailed⟩ | ⟨e, time, he, hp, hafter, -⟩
    · rw [hfailed x hx rfl] at hok
      cases hok
    · exact ⟨e, time, he, hp, hafter⟩
  have hunchanged : ∀ id, (∀ x ∈ outcomes, x.eventId = id → x.result.isOk = false) →
      s'.event? id = s.event? id := by
    intro id hfailed
    rcases hcourse.becomes id with ⟨hsame, -⟩ | ⟨-, -, -, -, -, x, hx, hid, hok⟩
    · exact hsame
    · rw [hfailed x hx hid] at hok
      cases hok
  refine
    { handled := h
      ids := h.ids
      distinct := hids
      published := ?_
      changed := hchanged
      unchanged := hunchanged
      counts := Report.fetched_eq _
      failures := Report.failures_ids _
      errors := fun id err => Report.mem_failures
      found := fun x hx => Report.outcome?_of_mem hnodup hx
      unknown := fun id hid => Report.outcome?_eq_none (h.ids ▸ hid)
      pending := ?_
      workspaces := hcourse.workspaces
      first := hcourse.first }
  · intro x hx
    constructor
    · intro hpublished
      by_contra hfailed
      obtain ⟨e, he, heq⟩ := List.mem_map.mp (h.ids ▸ List.mem_map_of_mem hx)
      obtain ⟨hstored, hp⟩ := hes e he
      rw [heq] at hstored
      have hsame := hunchanged x.eventId fun y hy hyx => by
        rw [hone x hx y hy hyx]
        exact Bool.eq_false_iff.mpr hfailed
      obtain ⟨e', he', hpub⟩ := Store.isPublished_iff.mp hpublished
      rw [hsame, hstored] at he'
      cases he'
      simp [Event.isPending, hpub] at hp
    · intro hok
      obtain ⟨e, time, -, -, hafter⟩ := hchanged x hx hok
      exact Store.isPublished_iff.mpr ⟨_, hafter, rfl⟩
  · rw [Report.published, ← List.countP_eq_length_filter]
    exact hcourse.pending

/-- **What a poll does and what it reports**, in a store that is free. A poll whose fetch fails
changes nothing; any other one handles the events that it fetches one after another, and its report
accounts for all that it did. -/
theorem poll_reported {s : Store} (hreachable : s.Reachable) (hfree : s.transaction = none)
    (config : ConsumerConfig) (draws : Nat → Draw) :
    let p := Store.backend.poll config draws s
    (s.faults.fetch = true → p.result = .error (.fetch Store.fetchFault.text) ∧ p.state = s) ∧
      (s.faults.fetch = false → ∃ es r,
        Store.fetch config.eventType config.batchSize s = (.ok es, s) ∧
        p.result = .ok r ∧ r.Accounts draws es s p.state) := by
  have hsound := hreachable.sound
  intro p
  refine ⟨?_, ?_⟩
  · intro hfault
    have hp : p = ⟨.error (.fetch Store.fetchFault.text), [], s⟩ := by
      simp [p, Backend.poll, Backend.pollFetched, Store.backend, Store.fetch, hfault,
        Store.fetchFault]
    rw [hp]
    exact ⟨rfl, rfl⟩
  · intro hclear
    let es := s.oldest config.eventType config.batchSize
    have hfetch : Store.fetch config.eventType config.batchSize s = (.ok es, s) := by
      simp [es, Store.fetch, hclear]
    obtain ⟨outcomes, log, s', hprocess⟩ : ∃ outcomes log s',
      Store.backend.process draws 0 es s = (outcomes, log, s') := ⟨_, _, _, rfl⟩
    have hp : p = ⟨.ok ⟨outcomes⟩, log, s'⟩ := by
      have hbatch : p = Store.backend.pollFetched draws (.ok es, s) :=
        congrArg (Store.backend.pollFetched draws) hfetch
      have hreports : Store.backend.reports s = ([], s) := rfl
      rw [hbatch]
      simp only [Backend.pollFetched, hreports, hprocess, List.nil_append]
    have hhandles := Store.process_handles draws 0 es s
    rw [hprocess] at hhandles
    refine ⟨es, ⟨outcomes⟩, hfetch, by rw [hp], ?_⟩
    rw [hp]
    refine hhandles.accounts hfree
      ((hsound.queue_ids _).sublist ((List.take_sublist _ _).map _)) ?_
    intro e he
    obtain ⟨hstored, hpending, -⟩ := hsound.mem_queue.mp (List.mem_of_mem_take he)
    exact ⟨hstored, hpending⟩

/-- A malformed event between two of one organization: the first of them creates a workspace, the
second finds it, and the malformed one stays pending. -/
theorem poll_reported_malformed :
    let good : Event := { (default : Event) with
      eventType := organizationCreated
      payload := (("\x7b\"organization_id\":" ++
        "\"018f2b1c-7a6d-7c3e-9d2a-0d9b8c7a6e5f\"\x7d").toUTF8).toList }
    let malformed : Event := { good with id := ⟨⟨1⟩⟩, payload := [] }
    let again : Event := { good with id := ⟨⟨2⟩⟩ }
    let s := (Script.steps [.insert good, .insert malformed, .insert again]
      (Script.start fun _ => default)).2.2.store
    let p := Store.backend.poll .standard (fun _ => default) s
    p.state.pendingCount = 1 ∧ p.state.workspaceCount = 1 ∧
      p.state.event? malformed.id = some malformed := by
  intro good malformed again s p
  have hreachable : s.Reachable := ⟨_, _, rfl⟩
  obtain ⟨es, ⟨outcomes⟩, hfetch, -, haccounts⟩ : ∃ es r,
      Store.fetch organizationCreated 50 s = (.ok es, s) ∧ p.result = .ok r ∧
        r.Accounts (fun _ => default) es s p.state :=
    (poll_reported hreachable rfl .standard fun _ => default).2 rfl
  have hsorted : [good, malformed, again].Pairwise fun a b => Store.notAfter a b = true := by
    decide +kernel
  have hes : es = [good, malformed, again] := by
    have hpending : s.pending organizationCreated = [good, malformed, again] := by decide +kernel
    rw [Store.fetch, if_neg (by decide +kernel)] at hfetch
    cases hfetch
    change ((s.pending organizationCreated).mergeSort Store.notAfter).take 50 = _
    rw [hpending, List.mergeSort_of_pairwise hsorted]
    rfl
  subst hes
  generalize p.state = s' at haccounts ⊢
  have houtcomes : Report.published ⟨outcomes⟩ = 2 ∧ outcomes.countP EventOutcome.isCreation = 1 ∧
      outcomes.all fun x => x.eventId != malformed.id || !x.result.isOk := by
    obtain _ | ⟨hrest⟩ := haccounts.handled
    obtain _ | ⟨hrest⟩ := hrest
    obtain _ | ⟨hrest⟩ := hrest
    cases hrest
    decide +kernel
  obtain ⟨hpublished, hcreated, hfailed⟩ := houtcomes
  have hafter := haccounts.pending
  have hpending : s.pendingCount = 3 := by decide +kernel
  have hworkspaces : s.workspaceCount = 0 := by decide +kernel
  rw [hpublished, hpending] at hafter
  refine ⟨Nat.add_right_cancel hafter, ?_, ?_⟩
  · rw [haccounts.workspaces, hworkspaces, hcreated]
  · rw [haccounts.unchanged malformed.id fun x hx hid => by
      simpa [hid] using List.all_eq_true.mp hfailed x hx]
    decide +kernel

end OutboxProvisioning
