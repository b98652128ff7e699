import OutboxProvisioning.Store
import OutboxProvisioning.Proofs.Program
import OutboxProvisioning.Proofs.Table

/-!
# The writes of an open transaction

Writes are staged against the store that the transaction holds, and fit it: what is to be added
is not there, and what is to be published is there and waits (`Staged.Fits`). So a commit never
stops half-way.

* `stageWorkspace_eq_ok_iff`, `stagePublication_eq_ok_iff`: which writes are accepted.
* `Sound.answer`: every call keeps a store sound.
* `commit_of_fits`: a commit that is not made to fail applies all staged writes, each once.
-/

namespace OutboxProvisioning

variable {s : Store} {t t' : Staged}

/-- The store has room for the writes of a transaction. -/
structure Staged.Fits (t : Staged) (s : Store) : Prop where
  owner : ∀ {o w}, t.workspaces.find? o = some w → w.organizationId = o
  absent : ∀ {o w}, t.workspaces.find? o = some w → s.workspace? o = none
  pending : ∀ {id time}, t.published.find? id = some time →
    ∃ e, s.event? id = some e ∧ e.isPending = true

/-- Everything stands under its own key, and the writes of the open transaction fit. -/
structure Store.Sound (s : Store) : Prop where
  id : ∀ {i e}, s.event? i = some e → e.id = i
  owner : ∀ {o w}, s.workspace? o = some w → w.organizationId = o
  fits : ∀ {t}, s.transaction = some t → t.Fits s

/-- An event as it is left when the events in a table are published. -/
def publishedBy (marks : Table EventId Instant) (id : EventId) (e : Event) : Event :=
  match marks.find? id with
  | some time => e.publishedFrom time
  | none => e

/-- Nothing staged fits every store. -/
theorem Staged.fits_default (s : Store) : (default : Staged).Fits s :=
  ⟨fun h => (by cases h), fun h => (by cases h), fun h => (by cases h)⟩

theorem hasWorkspace_eq_false_iff {o : OrganizationId} :
    s.hasWorkspace t o = false ↔ s.workspace? o = none ∧ t.workspaces.find? o = none := by
  simp [Store.hasWorkspace, Table.contains_eq_false_iff, Store.workspace?]

/-- A workspace is staged unless that is made to fail or the organization has one. -/
theorem stageWorkspace_eq_ok_iff {w : Workspace} : s.stageWorkspace t w = .ok t' ↔
    s.faults.createWorkspace = false ∧ s.hasWorkspace t w.organizationId = false ∧
      t' = { t with workspaces := t.workspaces.insert w.organizationId w } := by
  unfold Store.stageWorkspace
  cases s.faults.createWorkspace <;> cases s.hasWorkspace t w.organizationId <;>
    simp [eq_comm]

/-- A publication is staged unless that is made to fail, or the event is not there, is published,
or is to be published already. -/
theorem stagePublication_eq_ok_iff {id : EventId} {time : Instant} :
    s.stagePublication t id time = .ok t' ↔
      s.faults.markPublished = false ∧ (∃ e, s.event? id = some e ∧ e.isPending = true) ∧
        t.published.find? id = none ∧
        t' = { t with published := t.published.insert id time } := by
  unfold Store.stagePublication
  cases s.faults.markPublished with
  | true => simp
  | false =>
    cases he : s.event? id with
    | none => simp
    | some e =>
      cases hp : e.isPending with
      | false => simp [hp]
      | true =>
        cases hc : t.published.contains id with
        | true =>
          obtain ⟨time', ht⟩ := Table.contains_iff.mp hc
          simp [hp, ht]
        | false =>
          simp [hp, Table.contains_eq_false_iff.mp hc, @eq_comm _ t']

theorem Staged.Fits.stageWorkspace {w : Workspace} (h : t.Fits s)
    (hs : s.stageWorkspace t w = .ok t') : t'.Fits s := by
  obtain ⟨-, hnone, rfl⟩ := stageWorkspace_eq_ok_iff.mp hs
  obtain ⟨hstored, -⟩ := hasWorkspace_eq_false_iff.mp hnone
  refine ⟨?_, ?_, h.pending⟩
  · intro o v hv
    rw [Table.find?_insert] at hv
    split at hv
    · cases hv
      exact (Eq.symm ‹_›)
    · exact h.owner hv
  · intro o v hv
    rw [Table.find?_insert] at hv
    split at hv
    · subst o
      exact hstored
    · exact h.absent hv

theorem Staged.Fits.stagePublication {id : EventId} {time : Instant} (h : t.Fits s)
    (hs : s.stagePublication t id time = .ok t') : t'.Fits s := by
  obtain ⟨-, hpending, -, rfl⟩ := stagePublication_eq_ok_iff.mp hs
  refine ⟨h.owner, h.absent, ?_⟩
  intro i time' hi
  rw [Table.find?_insert] at hi
  split at hi
  · subst i
    exact hpending
  · exact h.pending hi

theorem markPublished_of_pending {e : Event} (h : e.isPending = true) (time : Instant) :
    e.markPublished time = .ok (e.publishedFrom time) := by
  have hp : e.published = false := by simpa [Event.isPending] using h
  simp [Event.markPublished, hp]

/-- Pending events are all published, and each once. -/
theorem publishAll_of_pending {l : List (EventId × Instant)} (hl : (l.map Prod.fst).Nodup)
    (events : Table EventId Event)
    (h : ∀ id time, (id, time) ∈ l → ∃ e, events.find? id = some e ∧ e.isPending = true) :
    ∃ events', Store.publishAll l events = (.ok (), events') ∧
      ∀ id, events'.find? id = (events.find? id).map (publishedBy ⟨l, hl⟩ id) := by
  induction l generalizing events with
  | nil =>
    refine ⟨events, rfl, ?_⟩
    intro id
    cases events.find? id <;> rfl
  | cons x rest ih =>
    obtain ⟨i, time⟩ := x
    obtain ⟨hfresh, hrest⟩ := List.nodup_cons.mp hl
    obtain ⟨e, he, hp⟩ := h i time List.mem_cons_self
    -- the others are still pending after this one
    have hothers : ∀ id time', (id, time') ∈ rest → ∃ e',
        (events.insert i (e.publishedFrom time)).find? id = some e' ∧ e'.isPending = true := by
      intro id time' hm
      have hne : id ≠ i := fun hi => hfresh (hi ▸ List.mem_map.mpr ⟨_, hm, rfl⟩)
      rw [Table.find?_insert_of_ne hne]
      exact h id time' (List.mem_cons_of_mem _ hm)
    obtain ⟨events', hall, hfind⟩ := ih hrest _ hothers
    refine ⟨events', ?_, ?_⟩
    · simp [Store.publishAll, he, markPublished_of_pending hp, hall]
    · intro id
      rw [hfind]
      unfold publishedBy
      rw [Table.find?_mk_cons hl]
      by_cases hi : i = id
      · subst hi
        have hnone : (⟨rest, hrest⟩ : Table EventId Instant).find? i = none := by
          rw [Option.eq_none_iff_forall_ne_some]
          intro v hv
          exact hfresh (List.mem_map.mpr ⟨_, Table.find?_eq_some_iff.mp hv, rfl⟩)
        simp [hnone, he, Table.find?_insert_self]
      · rw [Table.find?_insert_of_ne (Ne.symm hi), if_neg hi]

/-- **A commit is all or nothing.** When it is made to fail only the transaction is over; else
exactly the staged writes have come to the store. -/
theorem commit_of_fits (h : t.Fits s) :
    (s.faults.commit = true ∧ s.commit t =
      (.error (.database "Simulated commit failure"), { s with transaction := none })) ∨
    (s.faults.commit = false ∧ ∃ s', s.commit t = (.ok (), s') ∧ s'.transaction = none ∧
      s'.faults = s.faults ∧ (∀ id, s'.event? id = (s.event? id).map (publishedBy t.published id)) ∧
      ∀ o, s'.workspace? o = (t.workspaces.find? o).or (s.workspace? o)) := by
  unfold Store.commit
  cases hf : s.faults.commit with
  | true => exact .inl ⟨rfl, rfl⟩
  | false =>
    obtain ⟨events', hall, hfind⟩ := publishAll_of_pending t.published.nodup s.events
      fun id time hm => h.pending (Table.find?_eq_some_iff.mpr hm)
    refine .inr ⟨rfl, ⟨events', s.workspaces.insertAll t.workspaces, s.faults, none⟩, ?_, rfl, rfl,
      hfind, Table.find?_insertAll s.workspaces t.workspaces⟩
    simp [hall]

theorem publishedBy_id (marks : Table EventId Instant) (id : EventId) (e : Event) :
    (publishedBy marks id e).id = e.id := by
  unfold publishedBy
  split <;> rfl

namespace Store

/-! ### Calls in and out of a transaction -/

theorem answer_begin (h : s.transaction = none) :
    answer .beginTransaction s = (.ok (), { s with transaction := some default }) := by
  simp [answer, isOpen, h]

theorem answer_begin_of_open (h : s.transaction = some t) :
    answer .beginTransaction s = (.error (.database "A transaction is open"), s) := by
  simp [answer, isOpen, h]

theorem answer_exists (h : s.transaction = some t) (o : OrganizationId) :
    answer (.workspaceExists o) s = (.ok (s.hasWorkspace t o), s) := by
  simp [answer, h]

theorem answer_exists_of_closed (h : s.transaction = none) (o : OrganizationId) :
    answer (.workspaceExists o) s = (.error notOpen, s) := by
  simp [answer, h]

theorem answer_create (w : Workspace) (s : Store) :
    answer (.createWorkspace w) s = s.stage fun t => s.stageWorkspace t w := rfl

theorem answer_mark (id : EventId) (time : Instant) (s : Store) :
    answer (.markPublished id time) s = s.stage fun t => s.stagePublication t id time := rfl

theorem answer_commit (h : s.transaction = some t) : answer .commit s = s.commit t := by
  simp [answer, h]

theorem answer_commit_of_closed (h : s.transaction = none) :
    answer .commit s = (.error notOpen, s) := by
  simp [answer, h]

theorem commit_transaction (s : Store) (t : Staged) : (s.commit t).2.transaction = none := by
  unfold Store.commit
  dsimp only
  split
  · rfl
  · split <;> rfl

theorem stage_of_closed (h : s.transaction = none) (write : Staged → Except DomainError Staged) :
    s.stage write = (.error notOpen, s) := by
  simp [stage, h]

theorem stage_ok {write : Staged → Except DomainError Staged} (h : s.transaction = some t)
    (hw : write t = .ok t') : s.stage write = (.ok (), { s with transaction := some t' }) := by
  simp [stage, h, hw]

theorem stage_error {write : Staged → Except DomainError Staged} {e : DomainError}
    (h : s.transaction = some t) (hw : write t = .error e) : s.stage write = (.error e, s) := by
  simp [stage, h, hw]

/-- Staging a write leaves all but the open transaction as it is. -/
theorem stage_frame (s : Store) (write : Staged → Except DomainError Staged) :
    ∃ transaction, (s.stage write).2 = { s with transaction } := by
  cases ht : s.transaction with
  | none => exact ⟨none, by rw [stage_of_closed ht, ← ht]⟩
  | some t =>
    cases hw : write t with
    | error e => exact ⟨some t, by rw [stage_error ht hw, ← ht]⟩
    | ok t' => exact ⟨some t', by rw [stage_ok ht hw]⟩

/-- All calls but a commit leave all but the open transaction as it is. -/
theorem answer_frame {c : Call} (hc : c ≠ .commit) (s : Store) :
    ∃ transaction, (answer c s).2 = { s with transaction } := by
  cases c with
  | beginTransaction =>
    simp only [answer]
    split
    · exact ⟨s.transaction, rfl⟩
    · exact ⟨_, rfl⟩
  | workspaceExists o =>
    simp only [answer]
    split <;> exact ⟨s.transaction, rfl⟩
  | createWorkspace w => exact s.stage_frame _
  | markPublished id time => exact s.stage_frame _
  | commit => exact absurd rfl hc
  | rollback => exact ⟨none, rfl⟩

/-- No call changes the faults. -/
theorem answer_faults (c : Call) (s : Store) : (answer c s).2.faults = s.faults := by
  by_cases hc : c = .commit
  · subst hc
    cases ht : s.transaction with
    | none => rw [answer_commit_of_closed ht]
    | some t =>
      rw [answer_commit ht, commit]
      dsimp only
      split
      · rfl
      · split <;> rfl
  · obtain ⟨transaction, h⟩ := answer_frame hc s
    rw [h]

/-! ### Soundness -/

theorem Sound.empty : Sound .empty :=
  ⟨fun h => (by cases h), fun h => (by cases h), fun h => (by cases h)⟩

/-- The stored events are those that are found under their own identifiers. -/
theorem Sound.mem_values (h : s.Sound) {e : Event} :
    e ∈ s.events.values ↔ s.event? e.id = some e := by
  constructor
  · intro he
    obtain ⟨x, hx, rfl⟩ := List.mem_map.mp he
    have hfind : s.event? x.1 = some x.2 := Table.find?_eq_some_iff.mpr hx
    rw [h.id hfind]
    exact hfind
  · intro he
    exact List.mem_map.mpr ⟨_, Table.find?_eq_some_iff.mp he, rfl⟩

theorem Sound.setFault (h : s.Sound) (point : FaultPoint) (on : Bool) :
    (s.setFault point on).Sound :=
  ⟨h.id, h.owner, fun ht => ⟨(h.fits ht).owner, (h.fits ht).absent, (h.fits ht).pending⟩⟩

theorem Sound.insert (h : s.Sound) (hc : s.transaction = none) (e : Event) :
    (s.insert e).Sound := by
  refine ⟨?_, h.owner, ?_⟩
  · intro i e' he
    simp only [event?, Store.insert, Table.find?_insert] at he
    split at he
    · cases he
      exact Eq.symm ‹_›
    · exact h.id he
  · intro t ht
    simp [Store.insert, hc] at ht

/-- The end of a transaction without its writes. -/
theorem Sound.closed (h : s.Sound) : Sound { s with transaction := none } :=
  ⟨h.id, h.owner, fun ht => by cases ht⟩

theorem Sound.staged (h : s.Sound) (ht : t.Fits s) : Sound { s with transaction := some t } := by
  refine ⟨h.id, h.owner, ?_⟩
  intro t' ht'
  cases ht'
  exact ⟨ht.owner, ht.absent, ht.pending⟩

theorem Sound.commit (h : s.Sound) (ht : t.Fits s) : (s.commit t).2.Sound := by
  rcases commit_of_fits ht with ⟨-, hc⟩ | ⟨-, s', hc, hnone, -, hevents, hworkspaces⟩
  · rw [hc]
    exact h.closed
  · rw [hc]
    refine ⟨?_, ?_, ?_⟩
    · intro i e he
      rw [hevents, Option.map_eq_some_iff] at he
      obtain ⟨e', he', rfl⟩ := he
      rw [publishedBy_id]
      exact h.id he'
    · intro o w hw
      rw [hworkspaces, Option.or_eq_some_iff] at hw
      rcases hw with hw | ⟨-, hw⟩
      · exact ht.owner hw
      · exact h.owner hw
    · intro t' ht'
      rw [hnone] at ht'
      cases ht'

theorem Sound.stage (h : s.Sound) {write : Staged → Except DomainError Staged}
    (hw : ∀ t t', t.Fits s → write t = .ok t' → t'.Fits s) : (s.stage write).2.Sound := by
  cases ht : s.transaction with
  | none => rw [stage_of_closed ht]; exact h
  | some t =>
    cases hr : write t with
    | error e => rw [stage_error ht hr]; exact h
    | ok t' => rw [stage_ok ht hr]; exact h.staged (hw t t' (h.fits ht) hr)

/-- **Every call keeps a store sound**, also one that fails. -/
theorem Sound.answer (c : Call) (s : Store) (h : s.Sound) : (Store.answer c s).2.Sound := by
  cases c with
  | beginTransaction =>
    cases ht : s.transaction with
    | none => rw [answer_begin ht]; exact h.staged (Staged.fits_default s)
    | some t => rw [answer_begin_of_open ht]; exact h
  | workspaceExists o =>
    cases ht : s.transaction with
    | none => rw [answer_exists_of_closed ht]; exact h
    | some t => rw [answer_exists ht]; exact h
  | createWorkspace w => exact h.stage fun t t' ht hs => ht.stageWorkspace hs
  | markPublished id time => exact h.stage fun t t' ht hs => ht.stagePublication hs
  | commit =>
    cases ht : s.transaction with
    | none => rw [answer_commit_of_closed ht]; exact h
    | some t => rw [answer_commit ht]; exact h.commit (h.fits ht)
  | rollback => exact h.closed

theorem Sound.handle (h : s.Sound) (cmd : Command) (draw : Draw) :
    (s.handle cmd draw).2.Sound :=
  Program.run_preserves Sound.answer _ h

/-- **No event leaves a transaction open.** -/
theorem handle_transaction (cmd : Command) (draw : Draw) (s : Store) (h : s.transaction = none) :
    (s.handle cmd draw).2.transaction = none := by
  refine handle_closes (P := fun s : Store => s.transaction = none) ?_ ?_ (fun s => rfl) cmd draw
    s h
  · intro s e hs he
    rw [answer_begin hs] at he
    cases he
  · intro s
    cases ht : s.transaction with
    | none => rw [answer_commit_of_closed ht]; exact ht
    | some t => rw [answer_commit ht]; exact commit_transaction s t

theorem fetch_snd (eventType : String) (limit : Nat) (s : Store) :
    (fetch eventType limit s).2 = s := by
  unfold fetch
  split <;> rfl

/-- A poll keeps a free store sound and leaves it free. -/
theorem poll_free (config : ConsumerConfig) (draws : Nat → Draw) (h : s.Sound)
    (ht : s.transaction = none) :
    (backend.poll config draws s).state.Sound ∧
      (backend.poll config draws s).state.transaction = none := by
  refine Backend.poll_preserves (P := fun s : Store => s.Sound ∧ s.transaction = none) ?_ ?_
    (fun _ h => h) config draws ⟨h, ht⟩
  · intro eventType limit s hs
    change (fetch eventType limit s).2.Sound ∧ (fetch eventType limit s).2.transaction = none
    rw [fetch_snd]
    exact hs
  · intro cmd draw s hs
    exact ⟨hs.1.handle cmd draw, handle_transaction cmd draw s hs.2⟩

end Store

end OutboxProvisioning
