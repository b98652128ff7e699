import OutboxProvisioning.Batch

/-!
# Programs on any store

What holds of a program of calls and of a poll whatever store answers.

* `Program.run_bind`: one program after another.
* `Program.run_map`, `Backend.poll_map`: what a store keeps beside its state changes nothing.
* `Program.run_preserves`, `Backend.poll_preserves`: what every part keeps, the whole keeps.
* `handle_closes`: no event leaves a transaction open.
* `Command.subject_cases`: a command names an organization or says why not.
-/

namespace OutboxProvisioning

variable {σ τ α β : Type}

namespace Program

theorem run_bind (answer : (c : Call) → σ → c.Answer × σ) (p : Program α) (f : α → Program β)
    (s : σ) : (p.bind f).run answer s = (f (p.run answer s).1).run answer (p.run answer s).2 := by
  induction p generalizing s with
  | done a => rfl
  | call c next ih => exact ih _ _

/-- A store that is seen as another one is used by programs like that one. -/
theorem run_map {answer : (c : Call) → σ → c.Answer × σ} {answer' : (c : Call) → τ → c.Answer × τ}
    (view : τ → σ) (h : ∀ c t, answer c (view t) = ((answer' c t).1, view (answer' c t).2))
    (p : Program α) (t : τ) :
    p.run answer (view t) = ((p.run answer' t).1, view (p.run answer' t).2) := by
  induction p generalizing t with
  | done a => rfl
  | call c next ih =>
    simp only [run, h]
    exact ih _ _

/-- **What every call keeps, a program keeps.** -/
theorem run_preserves {answer : (c : Call) → σ → c.Answer × σ} {P : σ → Prop}
    (h : ∀ c s, P s → P (answer c s).2) (p : Program α) {s : σ} (hs : P s) :
    P (p.run answer s).2 := by
  induction p generalizing s with
  | done a => exact hs
  | call c next ih => exact ih _ (h c s hs)

end Program

namespace Backend

variable {b : Backend σ} {P : σ → Prop}

/-- What the work on every event keeps, the work on a batch keeps. -/
theorem process_preserves (hh : ∀ cmd draw s, P s → P ((handle cmd draw).run b.answer s).2)
    (hr : ∀ s, P s → P (b.reports s).2) (draws : Nat → Draw) (first : Nat) (es : List Event) {s : σ}
    (hs : P s) : P (b.process draws first es s).2.2 := by
  induction es generalizing first s with
  | nil => exact hs
  | cons e es ih => exact ih _ (hr _ (hh _ _ _ hs))

/-- **What a fetch and the work on every event keep, a poll keeps.** -/
theorem poll_preserves (hf : ∀ t n s, P s → P (b.fetch t n s).2)
    (hh : ∀ cmd draw s, P s → P ((handle cmd draw).run b.answer s).2)
    (hr : ∀ s, P s → P (b.reports s).2) (config : ConsumerConfig) (draws : Nat → Draw) {s : σ}
    (hs : P s) : P (b.poll config draws s).state := by
  have hfetched := hr _ (hf config.eventType config.batchSize s hs)
  unfold poll pollFetched
  cases (b.fetch config.eventType config.batchSize s).1 with
  | error e => exact hfetched
  | ok events => exact process_preserves hh hr draws 0 events hfetched

/-- The work on a batch, for a store that is seen as another one. -/
theorem process_map {b' : Backend τ} (view : τ → σ)
    (ha : ∀ c t, b.answer c (view t) = ((b'.answer c t).1, view (b'.answer c t).2))
    (hr : ∀ t, b.reports (view t) = ((b'.reports t).1, view (b'.reports t).2))
    (draws : Nat → Draw) (first : Nat) (es : List Event) (t : τ) :
    b.process draws first es (view t) =
      let r := b'.process draws first es t
      (r.1, r.2.1, view r.2.2) := by
  induction es generalizing first t with
  | nil => rfl
  | cons e es ih => simp only [process, Program.run_map view ha, hr, ih]

/-- **Polls of a store that is seen as another one** are polls of that one. -/
theorem poll_map {b' : Backend τ} (view : τ → σ)
    (hf : ∀ eventType n t, b.fetch eventType n (view t) =
      ((b'.fetch eventType n t).1, view (b'.fetch eventType n t).2))
    (ha : ∀ c t, b.answer c (view t) = ((b'.answer c t).1, view (b'.answer c t).2))
    (hr : ∀ t, b.reports (view t) = ((b'.reports t).1, view (b'.reports t).2))
    (config : ConsumerConfig) (draws : Nat → Draw) (t : τ) :
    b.poll config draws (view t) =
      let p := b'.poll config draws t
      ⟨p.result, p.log, view p.state⟩ := by
  unfold poll pollFetched
  simp only [hf, hr]
  cases (b'.fetch config.eventType config.batchSize t).1 with
  | error e => rfl
  | ok events => simp only [process_map view ha hr]

end Backend

theorem Command.subject_of_error {cmd : Command} {e : ProvisioningError}
    (h : Payload.decode cmd.payload = .error e ∨
      ∃ p, Payload.decode cmd.payload = .ok p ∧ p.organization = .error e) :
    cmd.subject = .error e := by
  unfold Command.subject
  rcases h with h | ⟨p, hp, ho⟩
  · rw [h]
  · rw [hp]
    simp [ho, Except.map]

theorem Command.subject_of_ok {cmd : Command} {p : Payload} {o : OrganizationId}
    (hp : Payload.decode cmd.payload = .ok p) (ho : p.organization = .ok o) :
    cmd.subject = .ok (p, o) := by
  unfold Command.subject
  rw [hp]
  simp [ho, Except.map]

/-- A command either has a subject or an error that says why not. -/
theorem Command.subject_cases (cmd : Command) :
    (∃ p o, Payload.decode cmd.payload = .ok p ∧ p.organization = .ok o ∧
      cmd.subject = .ok (p, o)) ∨ ∃ e, cmd.subject = .error e := by
  cases hp : Payload.decode cmd.payload with
  | error e => exact .inr ⟨e, Command.subject_of_error (.inl hp)⟩
  | ok p =>
    cases ho : p.organization with
    | error e => exact .inr ⟨e, Command.subject_of_error (.inr ⟨p, hp, ho⟩)⟩
    | ok o => exact .inl ⟨p, o, rfl, ho, Command.subject_of_ok hp ho⟩

/-- A command without a subject is answered without a word to the store. -/
theorem handle_run_error {cmd : Command} {e : ProvisioningError} (h : cmd.subject = .error e)
    (draw : Draw) (answer : (c : Call) → σ → c.Answer × σ) (s : σ) :
    (handle cmd draw).run answer s = (⟨.error e, []⟩, s) := by
  unfold handle
  rw [h]
  rfl

/-- After a transaction that is settled the last call was a commit or a rollback. -/
theorem settle_run (cmd : Command) (p : Payload) (o : OrganizationId)
    (r : Except ProvisioningError Effect) (answer : (c : Call) → σ → c.Answer × σ) (s : σ) :
    ((settle cmd p o r).run answer s).2 = (answer .commit s).2 ∨
      ((settle cmd p o r).run answer s).2 = (answer .rollback s).2 := by
  cases r with
  | error e =>
    right
    simp only [settle, Program.run]
    cases (answer .rollback s).1 <;> rfl
  | ok effect =>
    left
    simp only [settle, Program.run]
    cases (answer .commit s).1 <;> rfl

/-- **No event leaves a transaction open**, if commits and rollbacks end transactions and a
begin that fails does not open one. -/
theorem handle_closes {answer : (c : Call) → σ → c.Answer × σ} {P : σ → Prop}
    (hbegin : ∀ s e, P s → (answer .beginTransaction s).1 = .error e →
      P (answer .beginTransaction s).2)
    (hcommit : ∀ s, P (answer .commit s).2) (hrollback : ∀ s, P (answer .rollback s).2)
    (cmd : Command) (draw : Draw) (s : σ) (hs : P s) :
    P ((handle cmd draw).run answer s).2 := by
  rcases cmd.subject_cases with ⟨p, o, -, -, h⟩ | ⟨e, h⟩
  · unfold handle
    rw [h]
    simp only [Program.run]
    cases hb : (answer .beginTransaction s).1 with
    | error e => exact hbegin s e hs hb
    | ok u =>
      dsimp only
      rw [Program.run_bind]
      rcases settle_run cmd p o _ answer _ with hl | hl
      · rw [hl]
        exact hcommit _
      · rw [hl]
        exact hrollback _
  · rw [handle_run_error h]
    exact hs

end OutboxProvisioning
