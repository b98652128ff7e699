import OutboxProvisioning.Proofs.Serial
import OutboxProvisioning.Proofs.Protocol
import OutboxProvisioning.Proofs.Sharing

/-!
# Publication and provisioning are final

Whatever uses a store does one deed after another: it puts an event into it, switches a fault, or
makes a call. A history of deeds knows which calls the open transaction has been granted.

* `Script.store_steps`: every script is a history of deeds, polls and handled events included.
* `Vouched`: every write that is staged was granted to the open transaction.
* `History.next_event`, `History.next_workspace`: what one deed can do to what is stored.
* `publication_and_provisioning_final`: **nothing that is published or provisioned ever changes,
  and only the commit of a transaction that asked for it publishes or provisions.**
-/

namespace OutboxProvisioning

/-- One thing that is done to a store. -/
inductive Deed
  | insert (e : Event)
  | switch (point : FaultPoint) (on : Bool)
  | call (c : Call)

namespace Store

/-- The store after a deed. An event cannot be put into it while a transaction is open. -/
def perform (s : Store) : Deed → Store
  | .insert e => if s.isOpen then s else s.insert e
  | .switch point on => s.setFault point on
  | .call c => (answer c s).2

/-- Whether a call is answered without an error. -/
def grants (s : Store) (c : Call) : Bool := (Exchange.mk c (answer c s).1).error?.isNone

end Store

/-- A store with the calls that its open transaction has been granted so far. -/
structure History where
  store : Store
  granted : List Call

namespace History

/-- The calls of the open transaction after a deed. A begin that is granted starts anew. -/
def note (h : History) : Deed → List Call
  | .call .beginTransaction => if h.store.grants .beginTransaction then [] else h.granted
  | .call .commit | .call .rollback => []
  | .call c => if h.store.grants c then h.granted ++ [c] else h.granted
  | .insert _ | .switch _ _ => h.granted

/-- The history with one more deed. -/
def next (h : History) (d : Deed) : History := ⟨h.store.perform d, h.note d⟩

/-- The history of some deeds on a store that was empty at first. -/
def after (deeds : List Deed) : History := deeds.foldl next ⟨.empty, []⟩

theorem after_snoc (deeds : List Deed) (d : Deed) :
    after (deeds ++ [d]) = (after deeds).next d := by
  simp [after]

theorem after_store (deeds : List Deed) :
    (after deeds).store = deeds.foldl Store.perform .empty := by
  induction deeds using List.reverseRecOn with
  | nil => rfl
  | append_singleton deeds d ih =>
    rw [after_snoc, List.foldl_append, ← ih]
    rfl

end History

/-! ### Scripts are histories -/

/-- A store that writes down its calls, for polls. -/
def Store.recordedBackend : Backend (Store × List Exchange) where
  fetch eventType limit r :=
    ((Store.fetch eventType limit r.1).1, (Store.fetch eventType limit r.1).2, r.2)
  answer := recorded Store.answer
  reports r := ([], r)

/-- The calls in a conversation as deeds. -/
def deedsOf (xs : List Exchange) : List Deed := xs.map fun x => .call x.call

namespace Script

/-- What is done to the store to handle a command. -/
def handleDeeds (s : Script) (cmd : Command) : List Deed :=
  deedsOf ((OutboxProvisioning.handle cmd s.draw).run (recorded Store.answer) (s.store, [])).2.2

/-- What a poll does to the store. -/
def pollDeeds (s : Script) (config : ConsumerConfig) : List Deed :=
  deedsOf (Store.recordedBackend.poll config s.nextDraws (s.store, [])).state.2

/-- The call that is made inside a transaction. A transaction that is dropped is rolled back. -/
def callOf (s : Script) : TransactionStep → Call
  | .workspaceExists o => .workspaceExists o
  | .create id o time => .createWorkspace (Ledger.requested s id o time)
  | .mark id time => .markPublished id time
  | .commit => .commit
  | .rollback | .drop => .rollback

/-- What a step does to the store, if it does not have to wait. Looking at it is no deed. -/
def performDeeds (s : Script) : Step → List Deed
  | .insert e => [.insert e]
  | .fail point on => [.switch point on]
  | .openTransaction _ => [.call .beginTransaction]
  | .inside name step => if s.name = some name then [.call (s.callOf step)] else []
  | .handle cmd => s.handleDeeds cmd
  | .redeliver id =>
    match s.store.event? id with
    | some e => s.handleDeeds e.command
    | none => []
  | .poll config => s.pollDeeds config
  | .event _ | .workspaceFor _ | .sameTime _ _ | .counts | .fetch _ _ => []

/-- What a step does to the store. -/
def deeds (s : Script) (step : Step) : List Deed :=
  if s.store.isOpen && s.needsStore step then [] else s.performDeeds step

/-- What some steps do to the store. -/
def trace : List Step → Script → List Deed
  | [], _ => []
  | step :: rest, s => s.deeds step ++ trace rest (s.step false step).script

end Script

/-- A store that has come about by the calls that were written down. -/
def FromCalls (start : Store) (r : Store × List Exchange) : Prop :=
  r.1 = (deedsOf r.2).foldl Store.perform start

section
variable {start : Store} {r : Store × List Exchange}

theorem FromCalls.recorded (h : FromCalls start r) (c : Call) :
    FromCalls start (recorded Store.answer c r).2 := by
  unfold FromCalls at h ⊢
  simp only [OutboxProvisioning.recorded, deedsOf, List.map_append, List.foldl_append]
  rw [← deedsOf, ← h]
  rfl

/-- A command that is handled does to the store what its calls do. -/
theorem handle_fromCalls (s : Script) (cmd : Command) :
    (s.store.handle cmd s.draw).2 = (s.handleDeeds cmd).foldl Store.perform s.store := by
  have hcalls : FromCalls s.store
      ((handle cmd s.draw).run (recorded Store.answer) (s.store, [])).2 :=
    Program.run_preserves (fun c r h => h.recorded c) _ rfl
  rw [Store.handle, ← (Program.run_recorded Store.answer _ s.store []).2]
  exact hcalls

/-- A poll does to the store what its calls do. -/
theorem poll_fromCalls (s : Script) (config : ConsumerConfig) :
    (Store.backend.poll config s.nextDraws s.store).state =
      (s.pollDeeds config).foldl Store.perform s.store := by
  have hcalls : FromCalls s.store
      (Store.recordedBackend.poll config s.nextDraws (s.store, [])).state := by
    refine Backend.poll_preserves ?_ ?_ (fun _ h => h) config s.nextDraws rfl
    · intro eventType n r h
      change (Store.fetch eventType n r.1).2 = _
      rw [Store.fetch_snd]
      exact h
    · intro cmd draw r h
      exact Program.run_preserves (fun c r h => h.recorded c) _ h
  have hview : Store.backend.poll config s.nextDraws s.store =
      let p := Store.recordedBackend.poll config s.nextDraws (s.store, [])
      ⟨p.result, p.log, p.state.1⟩ :=
    Backend.poll_map Prod.fst (fun _ _ _ => rfl) (fun _ _ => rfl) (fun _ => rfl) config
      s.nextDraws (s.store, [])
  rw [hview]
  exact hcalls

end

namespace Script

variable {s : Script}

theorem inside_store (s : Script) (step : TransactionStep) :
    (s.inside step).script.store = s.store.perform (.call (s.callOf step)) := by
  cases step with
  | workspaceExists o =>
    cases ht : s.store.transaction with
    | none => simp [inside, reply, callOf, Store.perform, Store.answer_exists_of_closed ht]
    | some t => simp [inside, reply, callOf, Store.perform, Store.answer_exists ht]
  | create id o time => rfl
  | mark id time => rfl
  | commit => rfl
  | rollback => rfl
  | drop => rfl

/-- A step that does not have to wait does to the store what its deeds do. -/
theorem perform_store (step : Step) (h : s.store.isOpen = true → s.needsStore step = false) :
    (s.perform step).script.store = (s.performDeeds step).foldl Store.perform s.store := by
  cases step with
  | insert e =>
    -- an event is inserted only while no transaction is open
    have ho : s.store.isOpen = false := by
      cases ho : s.store.isOpen with
      | false => rfl
      | true => exact absurd (h ho) (by simp [needsStore])
    simp [perform, performDeeds, Store.perform, ho]
  | event id => rfl
  | workspaceFor o => rfl
  | sameTime id o =>
    simp only [perform]
    split <;> rfl
  | counts => rfl
  | fail point on => rfl
  | fetch eventType limit =>
    simp only [perform]
    split <;> rfl
  | openTransaction name => rfl
  | inside name step =>
    simp only [perform, performDeeds]
    split
    · exact s.inside_store step
    · rfl
  | handle cmd => exact handle_fromCalls s cmd
  | redeliver id =>
    simp only [perform, performDeeds]
    cases s.store.event? id with
    | none => rfl
    | some e => exact handle_fromCalls s e.command
  | poll config => exact poll_fromCalls s config

/-- **A step does to the store what its deeds do**, and one that would have to wait does nothing. -/
theorem step_store (s : Script) (step : Step) :
    (s.step false step).script.store = (s.deeds step).foldl Store.perform s.store := by
  unfold deeds
  cases hb : s.store.isOpen && s.needsStore step with
  | true =>
    obtain ⟨ho, hn⟩ := Bool.and_eq_true_iff.mp hb
    rw [step_of_blocked ho hn]
    rfl
  | false =>
    rw [step_of_free hb]
    refine perform_store step ?_
    intro ho
    simpa [ho] using hb

/-- **Every script is a history of deeds.** -/
theorem store_steps (steps : List Step) (s : Script) :
    (Script.steps steps s).2.2.store = (trace steps s).foldl Store.perform s.store := by
  induction steps generalizing s with
  | nil => rfl
  | cons step rest ih =>
    rw [trace, List.foldl_append, ← step_store]
    exact ih _

end Script

/-! ### What one deed can do -/

/-- **Every write of the open transaction was granted inside it**, and fits the store. -/
structure Vouched (h : History) : Prop where
  sound : h.store.Sound
  created : ∀ {t o w}, h.store.transaction = some t → t.workspaces.find? o = some w →
    .createWorkspace w ∈ h.granted
  marked : ∀ {t id time}, h.store.transaction = some t → t.published.find? id = some time →
    .markPublished id time ∈ h.granted

variable {h : History} {s : Store} {t t' : Staged} {d : Deed}

namespace Store

/-- Only a commit changes what is stored. -/
theorem answer_same {c : Call} (hc : c ≠ .commit) (s : Store) : s.Same (answer c s).2 := by
  obtain ⟨transaction, h⟩ := answer_frame hc s
  rw [h]
  exact ⟨rfl, rfl⟩

/-- A commit leaves what is stored as it is, or adds exactly what the open transaction has staged. -/
theorem Sound.commit_cases (h : s.Sound) :
    let r := Store.answer .commit s
    s.Same r.2 ∨ ∃ t, s.transaction = some t ∧ r.1 = .ok () ∧
      (∀ id, r.2.event? id = (s.event? id).map (publishedBy t.published id)) ∧
      ∀ o, r.2.workspace? o = (t.workspaces.find? o).or (s.workspace? o) := by
  cases ht : s.transaction with
  | none =>
    rw [answer_commit_of_closed ht]
    exact .inl ⟨rfl, rfl⟩
  | some t =>
    rw [answer_commit ht]
    rcases commit_of_fits (h.fits ht) with ⟨-, hc⟩ | ⟨-, s', hc, -, -, hevents, hworkspaces⟩
    · rw [hc]
      exact .inl ⟨rfl, rfl⟩
    · rw [hc]
      exact .inr ⟨t, rfl, rfl, hevents, hworkspaces⟩

theorem Sound.perform (h : s.Sound) (d : Deed) : (s.perform d).Sound := by
  cases d with
  | insert e =>
    simp only [Store.perform]
    cases ht : s.transaction with
    | none => simpa [isOpen, ht] using h.insert ht e
    | some t => simpa [isOpen, ht] using h
  | switch point on => exact h.setFault point on
  | call c => exact h.answer c

/-- A deed other than a call leaves the open transaction as it is. -/
theorem perform_transaction (s : Store) (hd : ∀ c, d ≠ .call c) :
    (s.perform d).transaction = s.transaction := by
  cases d with
  | insert e =>
    simp only [perform]
    split <;> rfl
  | switch point on => rfl
  | call c => exact absurd rfl (hd c)

end Store

namespace Vouched

theorem start : Vouched (History.after []) :=
  ⟨.empty, fun ht => (by cases ht), fun ht => (by cases ht)⟩

/-- Nothing is staged any more. -/
theorem of_closed (hsound : h.store.Sound) (ht : h.store.transaction = none) : Vouched h :=
  ⟨hsound, fun ht' => (by rw [ht] at ht'; cases ht'), fun ht' => (by rw [ht] at ht'; cases ht')⟩

/-- The same writes are staged, and all that was granted still counts. -/
theorem of_staged (hv : Vouched h) {h' : History} (hsound : h'.store.Sound)
    (ht : h'.store.transaction = h.store.transaction) (hg : ∀ c ∈ h.granted, c ∈ h'.granted) :
    Vouched h' := by
  refine ⟨hsound, ?_, ?_⟩
  · intro t o w ht' hw
    exact hg _ (hv.created (ht ▸ ht') hw)
  · intro t id time ht' hm
    exact hg _ (hv.marked (ht ▸ ht') hm)

/-- A call that stages a write. -/
theorem stage (hv : Vouched h) {c : Call} (write : Staged → Except DomainError Staged)
    (hstore : (Store.answer c h.store).2 = (h.store.stage write).2)
    (hnote : h.note (.call c) = if h.store.grants c then h.granted ++ [c] else h.granted)
    (hgrant : ∀ t t', h.store.transaction = some t → write t = .ok t' → h.store.grants c = true)
    (hwrite : ∀ t t', write t = .ok t' →
      (∀ o w, t'.workspaces.find? o = some w →
        t.workspaces.find? o = some w ∨ c = .createWorkspace w) ∧
      ∀ id time, t'.published.find? id = some time →
        t.published.find? id = some time ∨ c = .markPublished id time) :
    Vouched (h.next (.call c)) := by
  have hsound := hv.sound.answer c
  have hkept : ∀ x ∈ h.granted, x ∈ h.note (.call c) := by
    intro x hx
    rw [hnote]
    split
    · exact List.mem_append_left _ hx
    · exact hx
  cases ht : h.store.transaction with
  | none =>
    refine hv.of_staged hsound ?_ hkept
    change (Store.answer c h.store).2.transaction = _
    rw [hstore, Store.stage_of_closed ht]
  | some t =>
    cases hw : write t with
    | error e =>
      refine hv.of_staged hsound ?_ hkept
      change (Store.answer c h.store).2.transaction = _
      rw [hstore, Store.stage_error ht hw]
    | ok t' =>
      have hself : c ∈ h.note (.call c) := by
        rw [hnote, if_pos (hgrant t t' ht hw)]
        exact List.mem_append_right _ List.mem_cons_self
      have ht' : (h.next (.call c)).store.transaction = some t' := by
        change (Store.answer c h.store).2.transaction = _
        rw [hstore, Store.stage_ok ht hw]
      obtain ⟨hcreated, hmarked⟩ := hwrite t t' hw
      refine ⟨hsound, ?_, ?_⟩
      · intro t₁ o w ht₁ hw₁
        cases ht'.symm.trans ht₁
        rcases hcreated o w hw₁ with hold | rfl
        · exact hkept _ (hv.created ht hold)
        · exact hself
      · intro t₁ id time ht₁ hm
        cases ht'.symm.trans ht₁
        rcases hmarked id time hm with hold | rfl
        · exact hkept _ (hv.marked ht hold)
        · exact hself

/-- A transaction that begins has nothing staged. -/
theorem begin (hv : Vouched h) : Vouched (h.next (.call .beginTransaction)) := by
  have hsound := hv.sound.answer .beginTransaction
  cases ht : h.store.transaction with
  | none =>
    have ht' : (h.next (.call .beginTransaction)).store.transaction = some default := by
      change (Store.answer .beginTransaction h.store).2.transaction = _
      rw [Store.answer_begin ht]
    refine ⟨hsound, ?_, ?_⟩
    · intro t o w ht₁ hw
      cases ht'.symm.trans ht₁
      cases hw
    · intro t id time ht₁ hm
      cases ht'.symm.trans ht₁
      cases hm
  | some t =>
    -- it does not begin, so what was granted to the open one still counts
    have hanswer := Store.answer_begin_of_open ht
    refine hv.of_staged hsound ?_ ?_
    · change (Store.answer .beginTransaction h.store).2.transaction = _
      rw [hanswer]
    · intro c hc
      have hrefused : h.store.grants .beginTransaction = false := by
        simp [Store.grants, hanswer, Exchange.error?, errorOf?]
      simpa [History.next, History.note, hrefused] using hc

theorem lookup (hv : Vouched h) (o : OrganizationId) :
    Vouched (h.next (.call (.workspaceExists o))) := by
  refine hv.of_staged (hv.sound.answer _) ?_ ?_
  · change (Store.answer (.workspaceExists o) h.store).2.transaction = _
    cases ht : h.store.transaction with
    | none => rw [Store.answer_exists_of_closed ht]; exact ht
    | some t => rw [Store.answer_exists ht]; exact ht
  · intro c hc
    simp only [History.next, History.note]
    split
    · exact List.mem_append_left _ hc
    · exact hc

theorem create (hv : Vouched h) (w : Workspace) :
    Vouched (h.next (.call (.createWorkspace w))) := by
  refine hv.stage (fun t => h.store.stageWorkspace t w) rfl rfl ?_ ?_
  · intro t t' ht hw
    have hok : h.store.stage (fun t => h.store.stageWorkspace t w) = _ := Store.stage_ok ht hw
    simp [Store.grants, Store.answer, hok, Exchange.error?, errorOf?]
  · intro t t' hw
    obtain ⟨-, -, rfl⟩ := stageWorkspace_eq_ok_iff.mp hw
    refine ⟨?_, fun id time hm => .inl hm⟩
    intro o w' hw'
    rw [Table.find?_insert] at hw'
    split at hw'
    · cases hw'
      exact .inr rfl
    · exact .inl hw'

theorem mark (hv : Vouched h) (id : EventId) (time : Instant) :
    Vouched (h.next (.call (.markPublished id time))) := by
  refine hv.stage (fun t => h.store.stagePublication t id time) rfl rfl ?_ ?_
  · intro t t' ht hw
    have hok : h.store.stage (fun t => h.store.stagePublication t id time) = _ :=
      Store.stage_ok ht hw
    simp [Store.grants, Store.answer, hok, Exchange.error?, errorOf?]
  · intro t t' hw
    obtain ⟨-, -, -, rfl⟩ := stagePublication_eq_ok_iff.mp hw
    refine ⟨fun o w hw => .inl hw, ?_⟩
    intro id' time' hm
    rw [Table.find?_insert] at hm
    split at hm
    · cases hm
      subst id'
      exact .inr rfl
    · exact .inl hm

/-- **One more deed.** -/
theorem next (hv : Vouched h) (d : Deed) : Vouched (h.next d) := by
  have hsound := hv.sound.perform d
  cases d with
  | insert e => exact hv.of_staged hsound (h.store.perform_transaction (by simp)) fun c hc => hc
  | switch point on =>
    exact hv.of_staged hsound (h.store.perform_transaction (by simp)) fun c hc => hc
  | call c =>
    cases c with
    | beginTransaction => exact hv.begin
    | workspaceExists o => exact hv.lookup o
    | createWorkspace w => exact hv.create w
    | markPublished id time => exact hv.mark id time
    | commit =>
      refine of_closed hsound ?_
      change (Store.answer .commit h.store).2.transaction = none
      cases ht : h.store.transaction with
      | none => rw [Store.answer_commit_of_closed ht]; exact ht
      | some t => rw [Store.answer_commit ht]; exact Store.commit_transaction _ t
    | rollback => exact of_closed hsound rfl

/-- **Any number of deeds.** -/
theorem after (deeds : List Deed) : Vouched (History.after deeds) := by
  induction deeds using List.reverseRecOn with
  | nil => exact start
  | append_singleton deeds d ih =>
    rw [History.after_snoc]
    exact ih.next d

/-- What a commit can do: nothing, or what was granted to the open transaction. -/
theorem commit (hv : Vouched h) :
    h.store.Same (h.next (.call .commit)).store ∨
      h.store.grants .commit = true ∧ ∃ t : Staged, t.Fits h.store ∧
        (∀ o w, t.workspaces.find? o = some w → .createWorkspace w ∈ h.granted) ∧
        (∀ id time, t.published.find? id = some time → .markPublished id time ∈ h.granted) ∧
        (∀ id, (h.next (.call .commit)).store.event? id =
          (h.store.event? id).map (publishedBy t.published id)) ∧
        ∀ o, (h.next (.call .commit)).store.workspace? o =
          (t.workspaces.find? o).or (h.store.workspace? o) := by
  have hnext : (h.next (.call .commit)).store = (Store.answer .commit h.store).2 := rfl
  rw [hnext]
  rcases hv.sound.commit_cases with hsame | ⟨t, ht, hanswer, hevents, hworkspaces⟩
  · exact .inl hsame
  · have hgrants : h.store.grants .commit = true := by
      simp [Store.grants, hanswer, Exchange.error?, errorOf?]
    exact .inr ⟨hgrants, t, hv.sound.fits ht, fun o w => hv.created ht, fun id time => hv.marked ht,
      hevents, hworkspaces⟩

/-- **What one deed can do to a stored event**, if it does not put another one in its place. -/
theorem next_event (hv : Vouched h) {i : EventId} {e : Event} (he : h.store.event? i = some e)
    (hd : ∀ e', d = .insert e' → e'.id ≠ i) :
    (h.next d).store.event? i = some e ∨
      d = .call .commit ∧ h.store.grants .commit = true ∧ e.isPending = true ∧
        ∃ time, .markPublished i time ∈ h.granted ∧
          (h.next d).store.event? i = some (e.publishedFrom time) := by
  cases d with
  | insert e' =>
    left
    simp only [History.next, Store.perform]
    split
    · exact he
    · have hne : i ≠ e'.id := (hd e' rfl).symm
      rw [Store.event?, Store.insert, Table.find?_insert_of_ne hne]
      exact he
  | switch point on => exact .inl he
  | call c =>
    by_cases hc : c = .commit
    · subst hc
      rcases hv.commit with hsame | ⟨hgrants, t, hfits, -, hmarked, hevents, -⟩
      · exact .inl (by rw [hsame.event, he])
      · rw [hevents, he]
        cases hm : t.published.find? i with
        | none => exact .inl (by simp [publishedBy, hm])
        | some time =>
          obtain ⟨e', he', hpending⟩ := hfits.pending hm
          cases he.symm.trans he'
          exact .inr ⟨rfl, hgrants, hpending, time, hmarked i time hm, by simp [publishedBy, hm]⟩
    · exact .inl (by rw [← he]; exact (Store.answer_same hc h.store).event i)

/-- **What one deed can do to the workspace of an organization.** -/
theorem next_workspace (hv : Vouched h) (d : Deed) (o : OrganizationId) :
    (h.next d).store.workspace? o = h.store.workspace? o ∨
      d = .call .commit ∧ h.store.grants .commit = true ∧ h.store.workspace? o = none ∧
        ∃ w, w.organizationId = o ∧ .createWorkspace w ∈ h.granted ∧
          (h.next d).store.workspace? o = some w := by
  cases d with
  | insert e' =>
    left
    simp only [History.next, Store.perform]
    split <;> rfl
  | switch point on => exact .inl rfl
  | call c =>
    by_cases hc : c = .commit
    · subst hc
      rcases hv.commit with hsame | ⟨hgrants, t, hfits, hcreated, -, -, hworkspaces⟩
      · exact .inl (hsame.workspace o)
      · rw [hworkspaces]
        cases hw : t.workspaces.find? o with
        | none => exact .inl rfl
        | some w =>
          exact .inr ⟨rfl, hgrants, hfits.absent hw, w, hfits.owner hw, hcreated o w hw, rfl⟩
    · exact .inl ((Store.answer_same hc h.store).workspace o)

end Vouched

/-! ### Finality -/

/-- Two records of one event differ in its publication at most. -/
structure Event.SameFact (e e' : Event) : Prop where
  id : e'.id = e.id
  aggregateId : e'.aggregateId = e.aggregateId
  eventType : e'.eventType = e.eventType
  payload : e'.payload = e.payload
  createdAt : e'.createdAt = e.createdAt

theorem Event.SameFact.refl (e : Event) : e.SameFact e := ⟨rfl, rfl, rfl, rfl, rfl⟩

namespace History

/-- A stored event after more deeds: it is the same, or was pending and has been published. -/
theorem event_later (past more : List Deed) {i : EventId} {e : Event}
    (he : (after past).store.event? i = some e) (hmore : ∀ e', .insert e' ∈ more → e'.id ≠ i) :
    (after (past ++ more)).store.event? i = some e ∨ e.isPending = true ∧
      ∃ time, (after (past ++ more)).store.event? i = some (e.publishedFrom time) := by
  induction more using List.reverseRecOn with
  | nil => exact .inl (by rw [List.append_nil, he])
  | append_singleton more d ih =>
    have hv := Vouched.after (past ++ more)
    have hd : ∀ e', d = .insert e' → e'.id ≠ i := fun e' hd => hmore e' (by simp [hd])
    have hold : ∀ e', .insert e' ∈ more → e'.id ≠ i :=
      fun e' he' => hmore e' (List.mem_append_left _ he')
    rw [← List.append_assoc, after_snoc]
    rcases ih hold with hsame | ⟨hpending, time, hpublished⟩
    · rcases hv.next_event hsame hd with hnext | ⟨-, -, hpending, time, -, hnext⟩
      · exact .inl hnext
      · exact .inr ⟨hpending, time, hnext⟩
    · -- what is published is not pending any more
      rcases hv.next_event hpublished hd with hnext | ⟨-, -, hnot, -⟩
      · exact .inr ⟨hpending, time, hnext⟩
      · cases hnot

/-- A workspace after more deeds is the same. -/
theorem workspace_later (past more : List Deed) {o : OrganizationId} {w : Workspace}
    (hw : (after past).store.workspace? o = some w) :
    (after (past ++ more)).store.workspace? o = some w := by
  induction more using List.reverseRecOn with
  | nil => rw [List.append_nil, hw]
  | append_singleton more d ih =>
    rw [← List.append_assoc, after_snoc]
    rcases (Vouched.after (past ++ more)).next_workspace d o with hsame | ⟨-, -, hnone, -⟩
    · rw [hsame, ih]
    · rw [ih] at hnone
      cases hnone

end History

open History (after)

/-- **What is final** from a moment on, whatever is done to the store afterwards. -/
structure Final (past : List Deed) : Prop where
  /-- A published event stays as it is, until another one is put in its place. -/
  published : ∀ more i e, (after past).store.event? i = some e → e.published = true →
    (∀ e', .insert e' ∈ more → e'.id ≠ i) → (after (past ++ more)).store.event? i = some e
  /-- Of every event only the publication can change. -/
  fact : ∀ more i e, (after past).store.event? i = some e →
    (∀ e', .insert e' ∈ more → e'.id ≠ i) →
    ∃ e', (after (past ++ more)).store.event? i = some e' ∧ e.SameFact e'
  /-- Only a commit that goes well publishes, and only in a transaction that marked the event. -/
  publishes : ∀ d i e e', (after past).store.event? i = some e → e.isPending = true →
    (∀ x, d = .insert x → x.id ≠ i) →
    (after (past ++ [d])).store.event? i = some e' → e'.published = true →
    d = .call .commit ∧ (after past).store.grants .commit = true ∧
      ∃ time, .markPublished i time ∈ (after past).granted ∧ e' = e.publishedFrom time
  /-- A workspace stays as it is, and is never taken away. -/
  workspace : ∀ more o w, (after past).store.workspace? o = some w →
    (after (past ++ more)).store.workspace? o = some w
  /-- Only a commit that goes well provisions, and only in a transaction that created the
  workspace. -/
  provisions : ∀ d o w, (after past).store.workspace? o = none →
    (after (past ++ [d])).store.workspace? o = some w →
    d = .call .commit ∧ (after past).store.grants .commit = true ∧
      .createWorkspace w ∈ (after past).granted ∧ w.organizationId = o

/-- After every history. -/
theorem Final.of_history (past : List Deed) : Final past where
  published := by
    intro more i e he hp hmore
    rcases History.event_later past more he hmore with hsame | ⟨hpending, -⟩
    · exact hsame
    · simp [Event.isPending, hp] at hpending
  fact := by
    intro more i e he hmore
    rcases History.event_later past more he hmore with hsame | ⟨-, time, hpublished⟩
    · exact ⟨e, hsame, .refl e⟩
    · exact ⟨_, hpublished, rfl, rfl, rfl, rfl, rfl⟩
  publishes := by
    intro d i e e' he hpending hd he' hp
    rw [History.after_snoc] at he'
    rcases (Vouched.after past).next_event he hd with hsame | ⟨rfl, hgrants, -, time, hm, hnext⟩
    · -- the event would still be pending
      cases hsame.symm.trans he'
      simp [Event.isPending, hp] at hpending
    · cases hnext.symm.trans he'
      exact ⟨rfl, hgrants, time, hm, rfl⟩
  workspace := fun more o w hw => History.workspace_later past more hw
  provisions := by
    intro d o w hnone hw
    rw [History.after_snoc] at hw
    rcases (Vouched.after past).next_workspace d o with hsame | ⟨rfl, hgrants, -, w', ho, hc, hnext⟩
    · rw [hsame, hnone] at hw
      cases hw
    · cases hnext.symm.trans hw
      exact ⟨rfl, hgrants, hc, ho⟩

namespace Script

/-- Only the steps that insert events are such deeds. -/
theorem insert_mem_deeds {s : Script} {step : Step} {e : Event} (h : .insert e ∈ s.deeds step) :
    step = .insert e := by
  have hcalls : ∀ xs : List Exchange, Deed.insert e ∉ deedsOf xs := by
    intro xs hm
    obtain ⟨x, -, hx⟩ := List.mem_map.mp hm
    cases hx
  unfold deeds at h
  split at h
  · cases h
  · cases step with
    | insert e' => simpa [performDeeds, eq_comm] using h
    | handle cmd => exact absurd h (hcalls _)
    | poll config => exact absurd h (hcalls _)
    | redeliver id =>
      simp only [performDeeds] at h
      split at h
      · exact absurd h (hcalls _)
      · cases h
    | inside name step =>
      simp only [performDeeds] at h
      split at h <;> simp at h
    | _ => simp [performDeeds] at h

theorem insert_mem_trace {steps : List Step} {s : Script} {e : Event}
    (h : .insert e ∈ trace steps s) : .insert e ∈ steps := by
  induction steps generalizing s with
  | nil => cases h
  | cons step rest ih =>
    rcases List.mem_append.mp h with hstep | hrest
    · exact List.mem_cons.mpr (.inl (insert_mem_deeds hstep).symm)
    · exact List.mem_cons_of_mem _ (ih hrest)

end Script

/-- **Publication and provisioning are final.** What a script does to an empty store, and what it
goes on to do, is a history of deeds, in which events are inserted by the steps that say so and by
no others; and after every history what is published or provisioned stays as it is, and comes only
from the commit of a transaction that was granted the call for it. -/
theorem publication_and_provisioning_final (draws : Nat → Draw) (steps more : List Step) :
    let s := (Script.steps steps (Script.start draws)).2.2
    let past := Script.trace steps (Script.start draws)
    let later := Script.trace more s
    s.store = (after past).store ∧
      (Script.steps more s).2.2.store = (after (past ++ later)).store ∧
      (∀ e, .insert e ∈ later → .insert e ∈ more) ∧
      ∀ history, Final history := by
  intro s past later
  have hpast : s.store = (after past).store := by
    rw [History.after_store]
    exact Script.store_steps steps (Script.start draws)
  refine ⟨hpast, ?_, fun e => Script.insert_mem_trace, Final.of_history⟩
  rw [History.after_store, List.foldl_append, ← History.after_store, ← hpast]
  exact Script.store_steps more s

end OutboxProvisioning
