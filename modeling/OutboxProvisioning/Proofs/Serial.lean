import OutboxProvisioning.Store.Script
import OutboxProvisioning.Proofs.Program
import OutboxProvisioning.Proofs.Staging

/-!
# Transactions are serial, and all or nothing

The user of a transaction can keep a ledger: what the store held when the transaction began, and
which of its writes were accepted. The ledger is kept from the answers alone (`Ledger.after`), and
yet it says all there is to know.

* `follows_step`: one step of a script, seen from the ledger.
* `transactions_serial`: **after every script, while a transaction is open nobody else gets at the
  store, its answers are those of the ledger, and its end leaves what the store held at the
  beginning, with all accepted writes after a commit that went well and else with none.**
-/

namespace OutboxProvisioning

/-- What the user of the open transaction knows: what the store held at its beginning, and the
writes that were accepted. -/
structure Ledger where
  events : Table EventId Event
  workspaces : Table OrganizationId Workspace
  created : List Workspace
  marked : List (EventId × Instant)

namespace Ledger

/-- The ledger of a transaction that begins. -/
def opened (s : Store) : Ledger := ⟨s.events, s.workspaces, [], []⟩

/-- The workspace that a call to create one is about. -/
def requested (s : Script) (id : Option WorkspaceId) (o : OrganizationId) (time : Instant) :
    Workspace := ⟨id.getD s.draw.workspaceId, o, time⟩

/-- The ledger after a call inside the transaction with its answer, unless that ended it. -/
def note (l : Ledger) (s : Script) : TransactionStep → Answer → Option Ledger
  | _, .noTransaction => some l
  | .create id o time, .done => some { l with created := requested s id o time :: l.created }
  | .mark id time, .done => some { l with marked := (id, time) :: l.marked }
  | .commit, _ | .rollback, _ | .drop, _ => none
  | _, _ => some l

theorem note_noTransaction (l : Ledger) (s : Script) (call : TransactionStep) :
    l.note s call .noTransaction = some l := by
  cases call <;> rfl

/-- The ledger after a step, from the answer to it. -/
def next (s : Script) (step : Step) (l : Option Ledger) : Option Ledger :=
  match step, (s.step false step).answer with
  | .openTransaction _, .done => some (opened s.store)
  | .inside _ call, a => l.bind fun l => l.note s call a
  | _, _ => l

/-- The ledger after some steps. -/
def after : List Step → Script → Option Ledger → Option Ledger
  | [], _, l => l
  | step :: rest, s, l => after rest (s.step false step).script (next s step l)

/-- An organization had a workspace at the beginning or was given one since. -/
def Has (l : Ledger) (o : OrganizationId) : Prop :=
  (∃ w, l.workspaces.find? o = some w) ∨ ∃ w ∈ l.created, w.organizationId = o

/-- An event was pending at the beginning and is not to be published yet. -/
def Waits (l : Ledger) (id : EventId) : Prop :=
  (∃ e, l.events.find? id = some e ∧ e.isPending = true) ∧ ∀ time, (id, time) ∉ l.marked

/-- A store holds what it held at the beginning. -/
def Unchanged (l : Ledger) (s : Store) : Prop :=
  s.events = l.events ∧ s.workspaces = l.workspaces

/-- A store holds what it held at the beginning, with all accepted writes. -/
structure Applied (l : Ledger) (s : Store) : Prop where
  workspace : ∀ o w, s.workspace? o = some w ↔
    l.workspaces.find? o = some w ∨ w ∈ l.created ∧ w.organizationId = o
  marked : ∀ id time, (id, time) ∈ l.marked →
    ∃ e, l.events.find? id = some e ∧ s.event? id = some (e.publishedFrom time)
  unmarked : ∀ id, (∀ time, (id, time) ∉ l.marked) → s.event? id = l.events.find? id

/-- The staged writes are those of the ledger, and the store is still that of the beginning. -/
structure Tracks (l : Ledger) (s : Store) (t : Staged) : Prop where
  unchanged : l.Unchanged s
  created : ∀ {o w}, t.workspaces.find? o = some w ↔ w ∈ l.created ∧ w.organizationId = o
  marked : ∀ {id time}, t.published.find? id = some time ↔ (id, time) ∈ l.marked

variable {l : Ledger} {s : Store} {t t' : Staged}

theorem Tracks.opened (s : Store) : (opened s).Tracks s default := by
  refine ⟨⟨rfl, rfl⟩, ?_, ?_⟩
  · intro o w
    constructor
    · intro h
      cases h
    · rintro ⟨hw, -⟩
      cases hw
  · intro id time
    constructor <;> intro h <;> cases h

theorem Tracks.congr (h : l.Tracks s t) {s' : Store} (hevents : s'.events = s.events)
    (hworkspaces : s'.workspaces = s.workspaces) : l.Tracks s' t :=
  ⟨⟨hevents.trans h.unchanged.1, hworkspaces.trans h.unchanged.2⟩, h.created, h.marked⟩

theorem Tracks.has_iff (h : l.Tracks s t) (o : OrganizationId) :
    s.hasWorkspace t o = true ↔ l.Has o := by
  rw [Store.hasWorkspace, Bool.or_eq_true, Table.contains_iff, Table.contains_iff, h.unchanged.2]
  simp only [Has, h.created]

theorem Tracks.waits_iff (h : l.Tracks s t) (id : EventId) :
    ((∃ e, s.event? id = some e ∧ e.isPending = true) ∧ t.published.find? id = none) ↔
      l.Waits id := by
  unfold Waits
  rw [Store.event?, h.unchanged.1, Option.eq_none_iff_forall_ne_some]
  simp only [ne_eq, h.marked]

theorem Tracks.stageWorkspace {w : Workspace} (h : l.Tracks s t)
    (hs : s.stageWorkspace t w = .ok t') :
    { l with created := w :: l.created }.Tracks { s with transaction := some t' } t' := by
  obtain ⟨-, hnone, rfl⟩ := stageWorkspace_eq_ok_iff.mp hs
  obtain ⟨-, hfresh⟩ := hasWorkspace_eq_false_iff.mp hnone
  refine ⟨h.unchanged, ?_, h.marked⟩
  intro o v
  rw [Table.find?_insert]
  split
  · subst o
    -- nothing was staged for this organization before
    have hno : ¬(v ∈ l.created ∧ v.organizationId = w.organizationId) := by
      rw [← h.created, hfresh]
      simp
    simp only [Option.some.injEq, List.mem_cons]
    constructor
    · rintro rfl
      exact ⟨.inl rfl, rfl⟩
    · rintro ⟨rfl | hv, ho⟩
      · rfl
      · exact absurd ⟨hv, ho⟩ hno
  · rename_i hne
    rw [h.created]
    simp only [List.mem_cons]
    constructor
    · rintro ⟨hv, ho⟩
      exact ⟨.inr hv, ho⟩
    · rintro ⟨rfl | hv, ho⟩
      · exact absurd ho.symm hne
      · exact ⟨hv, ho⟩

theorem Tracks.stagePublication {id : EventId} {time : Instant} (h : l.Tracks s t)
    (hs : s.stagePublication t id time = .ok t') :
    { l with marked := (id, time) :: l.marked }.Tracks { s with transaction := some t' } t' := by
  obtain ⟨-, -, hfresh, rfl⟩ := stagePublication_eq_ok_iff.mp hs
  refine ⟨h.unchanged, h.created, ?_⟩
  intro i time'
  rw [Table.find?_insert]
  split
  · subst i
    have hno : (id, time') ∉ l.marked := by
      rw [← h.marked, hfresh]
      simp
    simp [hno, eq_comm]
  · rename_i hne
    rw [h.marked]
    simp [hne]

/-- A commit that goes well leaves all that was accepted. -/
theorem Tracks.applied (h : l.Tracks s t) (hf : t.Fits s) {s' : Store}
    (hevents : ∀ id, s'.event? id = (s.event? id).map (publishedBy t.published id))
    (hworkspaces : ∀ o, s'.workspace? o = (t.workspaces.find? o).or (s.workspace? o)) :
    l.Applied s' := by
  refine ⟨?_, ?_, ?_⟩
  · intro o w
    rw [hworkspaces, Option.or_eq_some_iff, ← h.created, ← h.unchanged.2]
    constructor
    · rintro (hw | ⟨-, hw⟩)
      · exact .inr hw
      · exact .inl hw
    · rintro (hw | hw)
      · -- an organization with a workspace has none staged
        refine .inr ⟨?_, hw⟩
        rw [Option.eq_none_iff_forall_ne_some]
        intro v hv
        have hnone := hf.absent hv
        rw [Store.workspace?, hw] at hnone
        cases hnone
      · exact .inl hw
  · intro id time hm
    have ht := h.marked.mpr hm
    obtain ⟨e, he, -⟩ := hf.pending ht
    refine ⟨e, ?_, ?_⟩
    · rw [← h.unchanged.1]
      exact he
    · rw [hevents, he]
      simp [publishedBy, ht]
  · intro id hm
    have ht : t.published.find? id = none := by
      rw [Option.eq_none_iff_forall_ne_some]
      intro time ht
      exact hm time (h.marked.mp ht)
    rw [hevents, ← h.unchanged.1, Store.event?]
    cases s.events.find? id <;> simp [publishedBy, ht]

end Ledger

/-- **The ledger follows the script.** -/
structure Follows (s : Script) (l : Option Ledger) : Prop where
  sound : s.store.Sound
  free : l = none → s.store.transaction = none ∧ s.name = none
  held : ∀ {L}, l = some L → ∃ t name,
    s.store.transaction = some t ∧ s.name = some name ∧ L.Tracks s.store t

variable {s s' : Script} {l : Option Ledger} {step : Step}

theorem Follows.congr (h : Follows s l) (hstore : s'.store = s.store) (hname : s'.name = s.name) :
    Follows s' l := by
  refine ⟨hstore ▸ h.sound, ?_, ?_⟩
  · rw [hstore, hname]
    exact h.free
  · rw [hstore, hname]
    exact h.held

theorem Follows.start (draws : Nat → Draw) : Follows (Script.start draws) none :=
  ⟨Store.Sound.empty, fun _ => ⟨rfl, rfl⟩, fun h => (by cases h)⟩

theorem Follows.of_free (hsound : s.store.Sound) (ht : s.store.transaction = none)
    (hn : s.name = none) : Follows s none :=
  ⟨hsound, fun _ => ⟨ht, hn⟩, fun h => (by cases h)⟩

theorem Follows.of_held {L : Ledger} {t : Staged} {name : String} (hsound : s.store.Sound)
    (ht : s.store.transaction = some t) (hn : s.name = some name) (h : L.Tracks s.store t) :
    Follows s (some L) :=
  ⟨hsound, fun h => (by cases h), fun hL => (by cases hL; exact ⟨t, name, ht, hn, h⟩)⟩

namespace Script

theorem step_inside (s : Script) (name : String) (call : TransactionStep) :
    s.step false (.inside name call) =
      if s.name = some name then s.inside call else s.reply .noTransaction := by
  simp [Script.step, needsStore, perform]

theorem step_of_blocked (ho : s.store.isOpen = true) (hn : s.needsStore step = true) :
    s.step false step = s.reply (waiting step) := by
  simp [Script.step, ho, hn]

theorem step_of_free (h : (s.store.isOpen && s.needsStore step) = false) :
    s.step false step = s.perform step := by
  simp [Script.step, h]

/-- A call inside a transaction that is not open, or not under this name, is refused. -/
theorem step_inside_of_ne {name : String} (h : s.name ≠ some name) (call : TransactionStep) :
    s.step false (.inside name call) = s.reply .noTransaction := by
  rw [step_inside, if_neg h]

theorem inside_exists {t : Staged} (h : s.store.transaction = some t) (o : OrganizationId) :
    s.inside (.workspaceExists o) = s.reply (.truth (s.store.hasWorkspace t o)) := by
  simp [inside, Store.answer_exists h]

theorem inside_create (s : Script) (id : Option WorkspaceId) (o : OrganizationId)
    (time : Instant) : s.inside (.create id o time) =
      let r := s.store.stage fun t => s.store.stageWorkspace t (Ledger.requested s id o time)
      ⟨Answer.ofResult r.1, [], { s with store := r.2, drawn := s.drawn + 1 }⟩ := rfl

theorem inside_mark (s : Script) (id : EventId) (time : Instant) : s.inside (.mark id time) =
      let r := s.store.stage fun t => s.store.stagePublication t id time
      ⟨Answer.ofResult r.1, [], { s with store := r.2 }⟩ := rfl

theorem inside_commit {t : Staged} (h : s.store.transaction = some t) : s.inside .commit =
    ⟨Answer.ofResult (s.store.commit t).1, [],
      { s with store := (s.store.commit t).2, name := none }⟩ := by
  simp [inside, Store.answer_commit h]

/-- The script after a transaction that leaves nothing. -/
def abandoned (s : Script) : Script :=
  { s with store := { s.store with transaction := none }, name := none }

theorem inside_rollback (s : Script) : s.inside .rollback = ⟨.done, [], s.abandoned⟩ := rfl

theorem inside_drop (s : Script) : s.inside .drop = ⟨.done, [], s.abandoned⟩ := rfl

end Script

theorem Follows.abandoned (h : Follows s l) : Follows s.abandoned none :=
  .of_free h.sound.closed rfl rfl

section
variable {L : Ledger} {name : String}

/-- Asked for a workspace, an open transaction answers what the ledger says. -/
theorem Follows.exists (h : Follows s (some L)) (hn : s.name = some name) (o : OrganizationId) :
    ∃ b, s.step false (.inside name (.workspaceExists o)) = s.reply (.truth b) ∧
      (b = true ↔ L.Has o) := by
  obtain ⟨t, -, ht, -, hl⟩ := h.held rfl
  refine ⟨s.store.hasWorkspace t o, ?_, hl.has_iff o⟩
  rw [Script.step_inside, if_pos hn, Script.inside_exists ht]

/-- A write that is accepted exactly under a condition, and the ledger with it. -/
theorem Follows.stage (h : Follows s (some L)) (write : Staged → Except DomainError Staged)
    (drawn : Nat) {A : Prop} {L' : Ledger}
    (hok : ∀ t t', t.Fits s.store → L.Tracks s.store t → write t = .ok t' →
      A ∧ t'.Fits s.store ∧ L'.Tracks { s.store with transaction := some t' } t')
    (herror : ∀ t e, L.Tracks s.store t → write t = .error e → ¬ A) :
    let r := s.store.stage write
    let after : Script := { s with store := r.2, drawn }
    (Script.Answer.ofResult r.1 = .done ∧ A ∧ Follows after (some L')) ∨
      ((∃ e, Script.Answer.ofResult r.1 = .refused e) ∧ ¬ A ∧ Follows after (some L)) := by
  obtain ⟨t, name', ht, hn, hl⟩ := h.held rfl
  cases hw : write t with
  | ok t' =>
    obtain ⟨hA, hfits, hl'⟩ := hok t t' (h.sound.fits ht) hl hw
    rw [Store.stage_ok ht hw]
    exact .inl ⟨rfl, hA, .of_held (h.sound.staged hfits) rfl hn hl'⟩
  | error e =>
    rw [Store.stage_error ht hw]
    exact .inr ⟨⟨e, rfl⟩, herror t e hl hw, h.congr rfl rfl⟩

/-- A workspace is accepted exactly when that is not made to fail and there is none. -/
theorem Follows.create (h : Follows s (some L)) (hn : s.name = some name)
    (id : Option WorkspaceId) (o : OrganizationId) (time : Instant) :
    let r := s.step false (.inside name (.create id o time))
    (r.answer = .done ∧ (s.store.faults.createWorkspace = false ∧ ¬ L.Has o) ∧
      Follows r.script
        (some { L with created := Ledger.requested s id o time :: L.created })) ∨
    ((∃ e, r.answer = .refused e) ∧ ¬(s.store.faults.createWorkspace = false ∧ ¬ L.Has o) ∧
      Follows r.script (some L)) := by
  have hhas : ∀ t, L.Tracks s.store t →
      (s.store.hasWorkspace t o = false ↔ ¬ L.Has o) := by
    intro t hl
    rw [← hl.has_iff o, Bool.not_eq_true]
  rw [Script.step_inside, if_pos hn, Script.inside_create]
  refine h.stage _ _ ?_ ?_
  · intro t t' hfits hl hw
    obtain ⟨hfault, hnone, -⟩ := stageWorkspace_eq_ok_iff.mp hw
    exact ⟨⟨hfault, (hhas t hl).mp hnone⟩, hfits.stageWorkspace hw, hl.stageWorkspace hw⟩
  · rintro t e hl hw ⟨hfault, hno⟩
    have hok := stageWorkspace_eq_ok_iff (w := Ledger.requested s id o time).mpr
      ⟨hfault, (hhas t hl).mpr hno, rfl⟩
    rw [hw] at hok
    cases hok

/-- A publication is accepted exactly when that is not made to fail and the event waits. -/
theorem Follows.mark (h : Follows s (some L)) (hn : s.name = some name) (id : EventId)
    (time : Instant) :
    let r := s.step false (.inside name (.mark id time))
    (r.answer = .done ∧ (s.store.faults.markPublished = false ∧ L.Waits id) ∧
      Follows r.script (some { L with marked := (id, time) :: L.marked })) ∨
    ((∃ e, r.answer = .refused e) ∧ ¬(s.store.faults.markPublished = false ∧ L.Waits id) ∧
      Follows r.script (some L)) := by
  rw [Script.step_inside, if_pos hn, Script.inside_mark]
  refine h.stage _ s.drawn ?_ ?_
  · intro t t' hfits hl hw
    obtain ⟨hfault, hpending, hfresh, -⟩ := stagePublication_eq_ok_iff.mp hw
    exact ⟨⟨hfault, (hl.waits_iff id).mp ⟨hpending, hfresh⟩⟩, hfits.stagePublication hw,
      hl.stagePublication hw⟩
  · rintro t e hl hw ⟨hfault, hwaits⟩
    obtain ⟨hpending, hfresh⟩ := (hl.waits_iff id).mpr hwaits
    have hok : s.store.stagePublication t id time = .ok _ :=
      stagePublication_eq_ok_iff.mpr ⟨hfault, hpending, hfresh, rfl⟩
    rw [hw] at hok
    cases hok

/-- A commit leaves all that was accepted, or is made to fail and leaves nothing. -/
theorem Follows.commit (h : Follows s (some L)) (hn : s.name = some name) :
    let r := s.step false (.inside name .commit)
    Follows r.script none ∧ r.script.store.faults = s.store.faults ∧
      ((s.store.faults.commit = false ∧ r.answer = .done ∧ L.Applied r.script.store) ∨
        (s.store.faults.commit = true ∧ (∃ e, r.answer = .refused e) ∧
          L.Unchanged r.script.store)) := by
  obtain ⟨t, -, ht, -, hl⟩ := h.held rfl
  have hfits := h.sound.fits ht
  have hsound := h.sound.commit hfits
  rw [Script.step_inside, if_pos hn, Script.inside_commit ht]
  rcases commit_of_fits hfits with ⟨hf, hc⟩ | ⟨hf, s', hc, hnone, hfaults, hevents, hworkspaces⟩
  · rw [hc] at hsound ⊢
    exact ⟨.of_free hsound rfl rfl, rfl, .inr ⟨hf, ⟨_, rfl⟩, hl.unchanged⟩⟩
  · rw [hc] at hsound ⊢
    exact ⟨.of_free hsound hnone rfl, hfaults,
      .inl ⟨hf, rfl, hl.applied hfits hevents hworkspaces⟩⟩

/-- A call inside the open transaction, seen from the ledger. -/
theorem Follows.inside (h : Follows s (some L)) (hn : s.name = some name)
    (call : TransactionStep) :
    Follows (s.step false (.inside name call)).script
      (L.note s call (s.step false (.inside name call)).answer) := by
  cases call with
  | workspaceExists o =>
    obtain ⟨b, hb, -⟩ := h.exists hn o
    rw [hb]
    exact h
  | create id o time =>
    rcases h.create hn id o time with ⟨ha, -, hf⟩ | ⟨⟨e, ha⟩, -, hf⟩
    · rw [ha]
      exact hf
    · rw [ha]
      exact hf
  | mark id time =>
    rcases h.mark hn id time with ⟨ha, -, hf⟩ | ⟨⟨e, ha⟩, -, hf⟩
    · rw [ha]
      exact hf
    · rw [ha]
      exact hf
  | commit =>
    obtain ⟨hf, -, ⟨-, ha, -⟩ | ⟨-, ⟨e, ha⟩, -⟩⟩ := h.commit hn
    · rw [ha]
      exact hf
    · rw [ha]
      exact hf
  | rollback =>
    rw [Script.step_inside, if_pos hn, Script.inside_rollback]
    exact h.abandoned
  | drop =>
    rw [Script.step_inside, if_pos hn, Script.inside_drop]
    exact h.abandoned

end

/-- A step that is no call inside a transaction, while none is open. -/
theorem Follows.outside_free (h : Follows s none) (hstep : ∀ name call, step ≠ .inside name call) :
    Follows (s.step false step).script (Ledger.next s step none) := by
  obtain ⟨ht, hn⟩ := h.free rfl
  have ho : s.store.isOpen = false := by simp [Store.isOpen, ht]
  have hperform : s.step false step = s.perform step := Script.step_of_free (by simp [ho])
  unfold Ledger.next
  rw [hperform]
  cases step with
  | insert e => exact .of_free (h.sound.insert ht e) ht hn
  | event id => exact h
  | workspaceFor o => exact h
  | sameTime id o =>
    simp only [Script.perform]
    split <;> exact h
  | counts => exact h
  | fail point on => exact .of_free (h.sound.setFault point on) ht hn
  | fetch eventType limit =>
    simp only [Script.perform]
    split <;> exact h
  | openTransaction name =>
    simp only [Script.perform, Store.answer_begin ht]
    exact .of_held (h.sound.staged (Staged.fits_default _)) rfl rfl
      ((Ledger.Tracks.opened s.store).congr rfl rfl)
  | inside name call => exact absurd rfl (hstep name call)
  | handle cmd =>
    exact .of_free (h.sound.handle cmd s.draw) (Store.handle_transaction cmd s.draw _ ht) hn
  | redeliver id =>
    simp only [Script.perform]
    split
    · exact .of_free (h.sound.handle _ s.draw) (Store.handle_transaction _ s.draw _ ht) hn
    · exact h
  | poll config =>
    obtain ⟨hsound, hfree⟩ := Store.poll_free config s.nextDraws h.sound ht
    exact .of_free hsound hfree hn

/-- A step that is no call inside a transaction leaves the store to the one who holds it. -/
theorem Follows.outside_held {L : Ledger} (h : Follows s (some L))
    (hstep : ∀ name call, step ≠ .inside name call) :
    Follows (s.step false step).script (Ledger.next s step (some L)) := by
  obtain ⟨t, name, ht, hn, hl⟩ := h.held rfl
  have ho : s.store.isOpen = true := by simp [Store.isOpen, ht]
  unfold Ledger.next
  cases hneeds : s.needsStore step with
  | true =>
    rw [Script.step_of_blocked ho hneeds]
    cases step <;> first | exact h | exact absurd rfl (hstep _ _)
  | false =>
    rw [Script.step_of_free (by simp [hneeds])]
    cases step with
    | fail point on => exact .of_held (h.sound.setFault point on) ht hn (hl.congr rfl rfl)
    | fetch eventType limit =>
      simp only [Script.perform]
      split <;> exact h
    | inside name call => exact absurd rfl (hstep name call)
    | handle cmd =>
      -- a payload that names no organization is refused before the store is asked
      cases hs : cmd.subject with
      | ok subject => simp [Script.needsStore, hs, Except.isOk, Except.toBool] at hneeds
      | error e =>
        refine h.congr ?_ rfl
        simp [Script.perform, Script.handle, Store.handle, handle_run_error hs]
    | poll config =>
      have hfault : s.store.faults.fetch = true := by simpa [Script.needsStore] using hneeds
      refine h.congr ?_ rfl
      simp [Script.perform, Script.poll, Script.afterPoll, Backend.poll, Backend.pollFetched,
        Store.backend, Store.fetch, hfault]
    | _ => simp [Script.needsStore] at hneeds

/-- **One step of a script, seen from the ledger.** -/
theorem follows_step (h : Follows s l) (step : Step) :
    Follows (s.step false step).script (Ledger.next s step l) := by
  by_cases hstep : ∃ name call, step = .inside name call
  · obtain ⟨name, call, rfl⟩ := hstep
    by_cases hn : s.name = some name
    · cases l with
      | none =>
        rw [(h.free rfl).2] at hn
        cases hn
      | some L => exact h.inside hn call
    · unfold Ledger.next
      rw [Script.step_inside_of_ne hn call]
      cases l with
      | none => exact h
      | some L => exact (L.note_noTransaction s call).symm ▸ h
  · have hout : ∀ name call, step ≠ .inside name call := fun name call hs => hstep ⟨name, call, hs⟩
    cases l with
    | none => exact h.outside_free hout
    | some L => exact h.outside_held hout

/-- **A script, seen from the ledger.** -/
theorem follows_after (steps : List Step) (h : Follows s l) :
    Follows (Script.steps steps s).2.2 (Ledger.after steps s l) := by
  induction steps generalizing s l with
  | nil => exact h
  | cons step rest ih => exact ih (follows_step h step)

/-- A store that some script leads to. -/
def Store.Reachable (s : Store) : Prop :=
  ∃ draws steps, (Script.steps steps (Script.start draws)).2.2.store = s

theorem Store.Reachable.sound {s : Store} (h : s.Reachable) : s.Sound := by
  obtain ⟨draws, steps, rfl⟩ := h
  exact (follows_after steps (Follows.start draws)).sound

/-- **What everyone can rely on** at a moment of a script: `l` is the ledger of the transaction
that is open, if one is. -/
structure Serial (s : Script) (l : Option Ledger) : Prop where
  isOpen : s.store.isOpen = l.isSome ∧ s.name.isSome = l.isSome
  /-- A transaction begins exactly when none is open. -/
  begins : ∀ name, (s.step false (.openTransaction name)).answer = .done ↔ l = none
  /-- What needs the store while a transaction is open is given up without effect. -/
  excludes : l ≠ none → ∀ step, s.needsStore step = true →
    s.step false step = s.reply (Script.waiting step)
  /-- Only the one who opened the transaction can get inside. -/
  foreign : ∀ name call, s.name ≠ some name →
    s.step false (.inside name call) = s.reply .noTransaction
  /-- Until the transaction ends, the store holds what it held at its beginning. -/
  unchanged : ∀ L, l = some L → L.Unchanged s.store
  asked : ∀ L name, l = some L → s.name = some name → ∀ o,
    ∃ b, s.step false (.inside name (.workspaceExists o)) = s.reply (.truth b) ∧
      (b = true ↔ L.Has o)
  creates : ∀ L name, l = some L → s.name = some name → ∀ id o time,
    let r := s.step false (.inside name (.create id o time))
    (r.answer = .done ↔ s.store.faults.createWorkspace = false ∧ ¬ L.Has o) ∧
      (r.answer = .done ∨ ∃ e, r.answer = .refused e)
  marks : ∀ L name, l = some L → s.name = some name → ∀ id time,
    let r := s.step false (.inside name (.mark id time))
    (r.answer = .done ↔ s.store.faults.markPublished = false ∧ L.Waits id) ∧
      (r.answer = .done ∨ ∃ e, r.answer = .refused e)
  /-- A commit that goes well leaves all accepted writes, one that fails leaves none. -/
  commits : ∀ L name, l = some L → s.name = some name →
    let r := s.step false (.inside name .commit)
    r.script.store.isOpen = false ∧ r.script.store.faults = s.store.faults ∧
      ((s.store.faults.commit = false ∧ r.answer = .done ∧ L.Applied r.script.store) ∨
        (s.store.faults.commit = true ∧ (∃ e, r.answer = .refused e) ∧
          L.Unchanged r.script.store))
  /-- A transaction that is rolled back or dropped leaves nothing. -/
  abandons : ∀ L name, l = some L → s.name = some name → ∀ call, call = .rollback ∨ call = .drop →
    let r := s.step false (.inside name call)
    r.answer = .done ∧ r.script.store.isOpen = false ∧
      r.script.store.faults = s.store.faults ∧ L.Unchanged r.script.store

theorem Follows.isOpen (h : Follows s l) :
    s.store.isOpen = l.isSome ∧ s.name.isSome = l.isSome := by
  cases l with
  | none =>
    obtain ⟨ht, hn⟩ := h.free rfl
    simp [Store.isOpen, ht, hn]
  | some L =>
    obtain ⟨t, name, ht, hn, -⟩ := h.held rfl
    simp [Store.isOpen, ht, hn]

theorem Follows.begins (h : Follows s l) (name : String) :
    (s.step false (.openTransaction name)).answer = .done ↔ l = none := by
  cases l with
  | none =>
    have ho : s.store.isOpen = false := h.isOpen.1
    rw [Script.step_of_free (by simp [ho])]
    simp [Script.perform, Store.answer_begin (h.free rfl).1, Script.Answer.ofResult]
  | some L =>
    rw [Script.step_of_blocked h.isOpen.1 rfl]
    simp [Script.reply, Script.waiting]

/-- A ledger that follows the script tells all there is to know. -/
theorem Follows.serial (h : Follows s l) : Serial s l where
  isOpen := h.isOpen
  begins := h.begins
  excludes := by
    intro hl step hneeds
    refine Script.step_of_blocked ?_ hneeds
    rw [h.isOpen.1]
    exact Option.isSome_iff_ne_none.mpr hl
  foreign := fun name call hne => Script.step_inside_of_ne hne call
  unchanged := by
    rintro L rfl
    obtain ⟨t, name, -, -, hl⟩ := h.held rfl
    exact hl.unchanged
  asked := by
    rintro L name rfl hn o
    exact h.exists hn o
  creates := by
    rintro L name rfl hn id o time
    rcases h.create hn id o time with ⟨ha, hc, -⟩ | ⟨⟨e, ha⟩, hc, -⟩
    · exact ⟨⟨fun _ => hc, fun _ => ha⟩, .inl ha⟩
    · refine ⟨⟨fun hd => ?_, fun hc' => absurd hc' hc⟩, .inr ⟨e, ha⟩⟩
      rw [ha] at hd
      cases hd
  marks := by
    rintro L name rfl hn id time
    rcases h.mark hn id time with ⟨ha, hc, -⟩ | ⟨⟨e, ha⟩, hc, -⟩
    · exact ⟨⟨fun _ => hc, fun _ => ha⟩, .inl ha⟩
    · refine ⟨⟨fun hd => ?_, fun hc' => absurd hc' hc⟩, .inr ⟨e, ha⟩⟩
      rw [ha] at hd
      cases hd
  commits := by
    rintro L name rfl hn
    obtain ⟨hf, hfaults, hcases⟩ := h.commit hn
    exact ⟨hf.isOpen.1, hfaults, hcases⟩
  abandons := by
    rintro L name rfl hn call (rfl | rfl)
    all_goals
      obtain ⟨t, -, -, -, hl⟩ := h.held rfl
      rw [Script.step_inside, if_pos hn]
      exact ⟨rfl, rfl, rfl, hl.unchanged⟩

/-- **Transactions are serial, and all or nothing**: whatever script has been run from an empty
store, a ledger kept from its answers tells what is open, who gets in, what every call inside
answers and what every end leaves behind. -/
theorem transactions_serial (draws : Nat → Draw) (steps : List Step) :
    Serial (Script.steps steps (Script.start draws)).2.2
      (Ledger.after steps (Script.start draws) none) :=
  (follows_after steps (Follows.start draws)).serial

end OutboxProvisioning
