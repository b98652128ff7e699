import Mathlib.Data.List.Infix
import OutboxProvisioning.Proofs.Program

/-!
# The conversation about one event

What the program for one event says to a store, whatever the store answers. A store that writes
down every call with its answer (`recorded`) makes the conversation visible.

* `run_recorded`: writing down changes neither the answers nor the store.
* `handle_conversation`: **nothing is said about a bad payload; else one begin, the body of the
  transaction up to its first failure, and one call that ends it: a commit when the body went
  well, a rollback otherwise. The result is that of the first failure.**
-/

namespace OutboxProvisioning

variable {σ α β : Type}

/-- A call with the answer it got. -/
structure Exchange where
  call : Call
  answer : call.Answer

/-- The error that an answer carries. -/
def errorOf? : Except DomainError α → Option DomainError
  | .error e => some e
  | .ok _ => none

namespace Exchange

/-- The error of a call that failed. -/
def error? : Exchange → Option DomainError
  | ⟨.beginTransaction, a⟩ => errorOf? a
  | ⟨.workspaceExists _, a⟩ => errorOf? a
  | ⟨.createWorkspace _, a⟩ => errorOf? a
  | ⟨.markPublished _ _, a⟩ => errorOf? a
  | ⟨.commit, a⟩ => errorOf? a
  | ⟨.rollback, a⟩ => errorOf? a

/-- The error that a failed call makes of the event. A rollback is never to blame. -/
def blame? (x : Exchange) : Option ProvisioningError :=
  x.error?.bind fun e =>
    match x.call with
    | .beginTransaction | .commit => some (.transaction e.text)
    | .workspaceExists _ | .createWorkspace _ => some (.resourceCreation e.text)
    | .markPublished _ _ => some (.markPublished e.text)
    | .rollback => none

end Exchange

/-- A store that writes down what it is asked and what it answers. -/
def recorded (answer : (c : Call) → σ → c.Answer × σ) (c : Call) (s : σ × List Exchange) :
    c.Answer × (σ × List Exchange) :=
  ((answer c s.1).1, (answer c s.1).2, s.2 ++ [⟨c, (answer c s.1).1⟩])

namespace Program

theorem run_call_recorded (answer : (c : Call) → σ → c.Answer × σ) (c : Call)
    (next : c.Answer → Program α) (s : σ) (seen : List Exchange) :
    (Program.call c next).run (recorded answer) (s, seen) =
      (next (answer c s).1).run (recorded answer)
        ((answer c s).2, seen ++ [⟨c, (answer c s).1⟩]) := rfl

/-- **Writing down changes nothing else.** -/
theorem run_recorded (answer : (c : Call) → σ → c.Answer × σ) (p : Program α) (s : σ)
    (seen : List Exchange) :
    (p.run (recorded answer) (s, seen)).1 = (p.run answer s).1 ∧
      (p.run (recorded answer) (s, seen)).2.1 = (p.run answer s).2 := by
  induction p generalizing s seen with
  | done a => exact ⟨rfl, rfl⟩
  | call c next ih => exact ih _ _ _

end Program

/-- Whether the answer is that an organization has no workspace. -/
def Exchange.isMissing : Exchange → Bool
  | ⟨.workspaceExists _, .ok false⟩ => true
  | _ => false

/-- Whether the store was found without the workspace. -/
def missing (xs : List Exchange) : Bool := xs.any Exchange.isMissing

/-- The calls of a body in which nothing fails. -/
def bodyCalls (event : EventId) (o : OrganizationId) (draw : Draw) (missing : Bool) : List Call :=
  [.workspaceExists o] ++
    (if missing then [.createWorkspace ⟨draw.workspaceId, o, draw.now⟩] else []) ++
    [.markPublished event draw.now]

/-- **The body of a transaction**: its calls in their order up to the first failure, the call for
a new workspace exactly after the answer that there is none. -/
structure IsBody (event : EventId) (o : OrganizationId) (draw : Draw) (xs : List Exchange) :
    Prop where
  calls : xs.map Exchange.call <+: bodyCalls event o draw (missing xs)
  early : ∀ x ∈ xs.dropLast, x.error? = none
  complete : (∀ x ∈ xs, x.error? = none) →
    xs.map Exchange.call = bodyCalls event o draw (missing xs)

/-- The call that ends a transaction after its body. -/
def ending (body : List Exchange) : Call :=
  if body.all fun x => x.error?.isNone then .commit else .rollback

/-- **What is said about one event.** -/
inductive IsConversation (event : EventId) (o : OrganizationId) (draw : Draw) :
    List Exchange → Prop
  /-- The store does not begin a transaction, and nothing more is said. -/
  | refused (e : DomainError) : IsConversation event o draw [⟨.beginTransaction, .error e⟩]
  | held {body : List Exchange} {last : Exchange} (hbody : IsBody event o draw body)
      (hlast : last.call = ending body) :
      IsConversation event o draw (⟨.beginTransaction, .ok ()⟩ :: body ++ [last])

/-- What comes of the answers in a conversation: the first failure, or else the effect. -/
def outcome (draw : Draw) (xs : List Exchange) : Except ProvisioningError Effect :=
  match xs.findSome? Exchange.blame? with
  | some e => .error e
  | none => .ok (if missing xs then .created draw.workspaceId else .alreadyProvisioned)

section
variable {event : EventId} {o : OrganizationId} {draw : Draw}

/-- Outside of rollbacks, a failure is always to blame. -/
theorem Exchange.blame?_eq_none_iff {x : Exchange} (h : x.call ≠ .rollback) :
    x.blame? = none ↔ x.error? = none := by
  obtain ⟨c, a⟩ := x
  cases c <;> simp_all [blame?] <;> cases Exchange.error? _ <;> simp

theorem IsBody.snoc {xs : List Exchange} {x : Exchange} (hxs : ∀ y ∈ xs, y.error? = none)
    (hcalls : (xs ++ [x]).map Exchange.call <+: bodyCalls event o draw (missing (xs ++ [x])))
    (hfull : x.error? = none →
      (xs ++ [x]).map Exchange.call = bodyCalls event o draw (missing (xs ++ [x]))) :
    IsBody event o draw (xs ++ [x]) := by
  refine ⟨hcalls, ?_, ?_⟩
  · intro y hy
    rw [List.dropLast_concat] at hy
    exact hxs y hy
  · intro h
    exact hfull (h x (by simp))

theorem IsBody.mem_calls {xs : List Exchange} (h : IsBody event o draw xs) {x : Exchange}
    (hx : x ∈ xs) : x.call ∈ bodyCalls event o draw (missing xs) :=
  h.calls.subset (List.mem_map_of_mem hx)

/-- No call of a body ends the transaction. -/
theorem IsBody.ne_rollback {xs : List Exchange} (h : IsBody event o draw xs) :
    ∀ x ∈ xs, x.call ≠ .rollback := by
  intro x hx hr
  have hm := h.mem_calls hx
  rw [hr] at hm
  cases hmis : missing xs <;> simp [bodyCalls, hmis] at hm

theorem IsBody.ne_commit {xs : List Exchange} (h : IsBody event o draw xs) :
    ∀ x ∈ xs, x.call ≠ .commit := by
  intro x hx hr
  have hm := h.mem_calls hx
  rw [hr] at hm
  cases hmis : missing xs <;> simp [bodyCalls, hmis] at hm

theorem IsBody.blame_iff {xs : List Exchange} (h : IsBody event o draw xs) :
    xs.findSome? Exchange.blame? = none ↔ ∀ x ∈ xs, x.error? = none := by
  rw [List.findSome?_eq_none_iff]
  constructor
  · intro hb x hx
    exact (Exchange.blame?_eq_none_iff (h.ne_rollback x hx)).mp (hb x hx)
  · intro he x hx
    exact (Exchange.blame?_eq_none_iff (h.ne_rollback x hx)).mpr (he x hx)

theorem IsBody.ending_of_none {xs : List Exchange} (h : IsBody event o draw xs)
    (hf : xs.findSome? Exchange.blame? = none) : ending xs = .commit := by
  simp only [ending, List.all_eq_true, Option.isNone_iff_eq_none, if_pos (h.blame_iff.mp hf)]

theorem IsBody.ending_of_some {xs : List Exchange} (h : IsBody event o draw xs)
    {e : ProvisioningError} (hf : xs.findSome? Exchange.blame? = some e) :
    ending xs = .rollback := by
  have hne : ¬ ∀ x ∈ xs, x.error? = none := by
    rw [← h.blame_iff, hf]
    simp
  simp only [ending, List.all_eq_true, Option.isNone_iff_eq_none, if_neg hne]

/-- A body that stops at its first call or at the second. -/
theorem IsBody.stopped {xs : List Exchange} {x : Exchange} {e : DomainError}
    (hxs : ∀ y ∈ xs, y.error? = none) (he : x.error? = some e)
    (hcalls : (xs ++ [x]).map Exchange.call <+: bodyCalls event o draw (missing (xs ++ [x]))) :
    IsBody event o draw (xs ++ [x]) :=
  IsBody.snoc hxs hcalls fun h => by rw [h] at he; cases he

/-- An event is provisioned exactly when its commit was called and went well. -/
theorem IsConversation.isOk_iff {xs : List Exchange} (h : IsConversation event o draw xs) :
    (outcome draw xs).isOk = true ↔ ⟨.commit, .ok ()⟩ ∈ xs := by
  cases h with
  | refused e => simp [outcome, Exchange.blame?, Exchange.error?, errorOf?, Except.isOk,
      Except.toBool]
  | @held body last hbody hlast =>
    -- neither the begin nor the body holds a commit
    have hmem : (⟨.commit, .ok ()⟩ : Exchange) ∈ ⟨.beginTransaction, .ok ()⟩ :: body ++ [last] ↔
        last = ⟨.commit, .ok ()⟩ := by
      have hnot : (⟨.commit, .ok ()⟩ : Exchange) ∉ body := fun hm => hbody.ne_commit _ hm rfl
      simp [hnot, eq_comm]
    have hfind : (⟨.beginTransaction, .ok ()⟩ :: body ++ [last]).findSome? Exchange.blame? =
        (body.findSome? Exchange.blame?).or last.blame? := by
      change (body ++ [last]).findSome? Exchange.blame? = _
      rw [List.findSome?_append]
      cases hb : last.blame? <;> simp [hb]
    obtain ⟨c, a⟩ := last
    rw [hmem]
    unfold outcome
    rw [hfind]
    cases hf : body.findSome? Exchange.blame? with
    | some e =>
      rw [hbody.ending_of_some hf] at hlast
      subst hlast
      simp [Except.isOk, Except.toBool]
    | none =>
      rw [hbody.ending_of_none hf] at hlast
      subst hlast
      cases a <;> simp [Exchange.blame?, Exchange.error?, errorOf?, Except.isOk, Except.toBool]

variable (event o draw) (answer : (c : Call) → σ → c.Answer × σ) (s : σ) (seen : List Exchange)

/-- Flagging the event is one call, and the last of a body. -/
theorem publish_body (xs : List Exchange) (effect : Effect) (hxs : ∀ y ∈ xs, y.error? = none)
    (hcalls : xs.map Exchange.call ++ [.markPublished event draw.now] =
      bodyCalls event o draw (missing xs))
    (heffect : effect = if missing xs then .created draw.workspaceId else .alreadyProvisioned) :
    ∃ x, IsBody event o draw (xs ++ [x]) ∧
      ((publish event draw.now effect).run (recorded answer) (s, seen ++ xs)).2.2 =
        seen ++ (xs ++ [x]) ∧
      ((publish event draw.now effect).run (recorded answer) (s, seen ++ xs)).1 =
        outcome draw (xs ++ [x]) := by
  set x : Exchange := ⟨.markPublished event draw.now, (answer (.markPublished event draw.now) s).1⟩
    with hx
  have hm : missing (xs ++ [x]) = missing xs := by simp [missing, hx, Exchange.isMissing]
  have hfull : (xs ++ [x]).map Exchange.call = bodyCalls event o draw (missing (xs ++ [x])) := by
    rw [hm, ← hcalls, List.map_append]
    rfl
  have hbody : IsBody event o draw (xs ++ [x]) :=
    IsBody.snoc hxs (hfull ▸ List.prefix_rfl) fun _ => hfull
  have hnone : xs.findSome? Exchange.blame? = none := by
    rw [List.findSome?_eq_none_iff]
    intro y hy
    exact (Exchange.blame?_eq_none_iff (hbody.ne_rollback y (List.mem_append_left _ hy))).mpr
      (hxs y hy)
  refine ⟨x, hbody, ?_, ?_⟩
  · unfold publish
    cases ha : (answer (.markPublished event draw.now) s).1 <;>
      simp [Program.run, recorded, hx, ha]
  · unfold publish
    cases ha : (answer (.markPublished event draw.now) s).1 <;>
      simp [Program.run, recorded, hx, ha, outcome, List.findSome?_append, hnone, Exchange.blame?,
        Exchange.error?, errorOf?, missing, Exchange.isMissing, heffect]

/-- **The body of a transaction on any store.** -/
theorem apply_body : ∃ xs, IsBody event o draw xs ∧
    ((apply event o draw).run (recorded answer) (s, seen)).2.2 = seen ++ xs ∧
    ((apply event o draw).run (recorded answer) (s, seen)).1 = outcome draw xs := by
  unfold apply
  rw [Program.run_call_recorded]
  cases (answer (.workspaceExists o) s).1 with
  | error e =>
    exact ⟨[] ++ [⟨.workspaceExists o, .error e⟩],
      IsBody.stopped (e := e) (by simp) rfl (by simp [bodyCalls]), rfl, rfl⟩
  | ok found =>
    cases found with
    | true =>
      obtain ⟨x, hb, hseen, hr⟩ := publish_body event o draw answer
        (answer (.workspaceExists o) s).2 seen [⟨.workspaceExists o, .ok true⟩]
        .alreadyProvisioned (by simp [Exchange.error?, errorOf?]) rfl rfl
      exact ⟨_, hb, hseen, hr⟩
    | false =>
      -- there is no workspace, so a new one is asked for
      dsimp only
      rw [Program.run_call_recorded]
      cases (answer (.createWorkspace ⟨draw.workspaceId, o, draw.now⟩)
          (answer (.workspaceExists o) s).2).1 with
      | error e =>
        rw [List.append_assoc]
        exact ⟨[⟨.workspaceExists o, .ok false⟩] ++
            [⟨.createWorkspace ⟨draw.workspaceId, o, draw.now⟩, .error e⟩],
          IsBody.stopped (e := e) (by simp [Exchange.error?, errorOf?]) rfl
            ⟨[.markPublished event draw.now], rfl⟩, rfl, rfl⟩
      | ok u =>
        rw [List.append_assoc]
        obtain ⟨x, hb, hseen, hr⟩ := publish_body event o draw answer
          (answer (.createWorkspace ⟨draw.workspaceId, o, draw.now⟩)
            (answer (.workspaceExists o) s).2).2 seen
          [⟨.workspaceExists o, .ok false⟩,
            ⟨.createWorkspace ⟨draw.workspaceId, o, draw.now⟩, .ok u⟩]
          (.created draw.workspaceId) (by simp [Exchange.error?, errorOf?]) rfl rfl
        exact ⟨_, hb, hseen, hr⟩

/-- **The end of a transaction on any store**, after a body that has been recorded. -/
theorem settle_ending (cmd : Command) (p : Payload) {body : List Exchange}
    (hbody : IsBody event o draw body) :
    ∃ last : Exchange, last.call = ending body ∧
      ((settle cmd p o (outcome draw body)).run (recorded answer) (s, seen)).2.2 = seen ++ [last] ∧
      ((settle cmd p o (outcome draw body)).run (recorded answer) (s, seen)).1.result =
        (outcome draw (body ++ [last])).map (Provisioned.mk o) := by
  cases hf : body.findSome? Exchange.blame? with
  | some e =>
    have hend := hbody.ending_of_some hf
    have ho : outcome draw body = .error e := by simp [outcome, hf]
    refine ⟨⟨.rollback, (answer .rollback s).1⟩, hend.symm, ?_, ?_⟩
    · rw [ho]
      cases ha : (answer .rollback s).1 <;> simp [settle, Program.run, recorded, ha]
    · rw [ho]
      cases ha : (answer .rollback s).1 <;>
        simp [settle, Program.run, recorded, ha, outcome, List.findSome?_append, hf, Except.map]
  | none =>
    have hend := hbody.ending_of_none hf
    have ho : outcome draw body =
        .ok (if missing body then .created draw.workspaceId else .alreadyProvisioned) := by
      simp [outcome, hf]
    refine ⟨⟨.commit, (answer .commit s).1⟩, hend.symm, ?_, ?_⟩
    · rw [ho]
      cases ha : (answer .commit s).1 <;> simp [settle, Program.run, recorded, ha]
    · rw [ho]
      cases ha : (answer .commit s).1 <;>
        simp [settle, Program.run, recorded, ha, outcome, List.findSome?_append, hf,
          Exchange.blame?, Exchange.error?, errorOf?, missing, Exchange.isMissing, Except.map]

end

/-- What is said to a store about a command with a subject, and what comes of it. -/
theorem handle_recorded {cmd : Command} {p : Payload} {o : OrganizationId}
    (h : cmd.subject = .ok (p, o)) (draw : Draw) (answer : (c : Call) → σ → c.Answer × σ) (s : σ) :
    IsConversation cmd.eventId o draw
        ((handle cmd draw).run (recorded answer) (s, [])).2.2 ∧
      ((handle cmd draw).run (recorded answer) (s, [])).1.result =
        (outcome draw ((handle cmd draw).run (recorded answer) (s, [])).2.2).map
          (Provisioned.mk o) := by
  unfold handle
  rw [h]
  dsimp only
  rw [Program.run_call_recorded]
  cases (answer .beginTransaction s).1 with
  | error e => exact ⟨.refused e, rfl⟩
  | ok u =>
    dsimp only
    rw [Program.run_bind]
    obtain ⟨body, hbody, hseen, hr⟩ := apply_body cmd.eventId o draw answer
      (answer .beginTransaction s).2 ([] ++ [⟨.beginTransaction, .ok u⟩])
    obtain ⟨⟨s₁, seen⟩, hs₁⟩ : ∃ t, t = ((apply cmd.eventId o draw).run (recorded answer)
      ((answer .beginTransaction s).2, [] ++ [⟨.beginTransaction, .ok u⟩])).2 := ⟨_, rfl⟩
    rw [← hs₁] at hseen ⊢
    obtain ⟨last, hlast, hend, hres⟩ := settle_ending cmd.eventId o draw answer s₁ seen cmd p hbody
    rw [hr, hend, hres]
    dsimp only at hseen
    subst hseen
    exact ⟨.held hbody hlast, rfl⟩

/-- **The conversation about one event**, over every store: nothing is said about a payload that
names no organization. Otherwise the store is asked to begin once, and then nothing more if it
does not; else for the workspace, for a new one exactly if there is none, and to flag the event,
up to the first failure; then to roll back if there was one and to commit if not. The result is
the effect, or the error of the first failed call; a rollback has no say in it. -/
theorem handle_conversation (answer : (c : Call) → σ → c.Answer × σ) (s : σ) (cmd : Command)
    (draw : Draw) :
    let told := (handle cmd draw).run (recorded answer) (s, [])
    (told.1 = ((handle cmd draw).run answer s).1 ∧
      told.2.1 = ((handle cmd draw).run answer s).2) ∧
    (∀ e, (Payload.decode cmd.payload = .error e ∨
        ∃ p, Payload.decode cmd.payload = .ok p ∧ p.organization = .error e) →
      told.2.2 = [] ∧ told.1.result = .error e) ∧
    (∀ p o, Payload.decode cmd.payload = .ok p → p.organization = .ok o →
      IsConversation cmd.eventId o draw told.2.2 ∧
        told.1.result = (outcome draw told.2.2).map (Provisioned.mk o)) ∧
    (told.1.result.isOk = true ↔ ⟨.commit, .ok ()⟩ ∈ told.2.2) := by
  intro told
  refine ⟨Program.run_recorded answer (handle cmd draw) s [], ?_, ?_, ?_⟩
  · intro e he
    have hrun := handle_run_error (Command.subject_of_error he) draw (recorded answer) (s, [])
    simp [told, hrun]
  · intro p o hp ho
    exact handle_recorded (Command.subject_of_ok hp ho) draw answer s
  · rcases cmd.subject_cases with ⟨p, o, -, -, hok⟩ | ⟨e, he⟩
    · obtain ⟨hconv, hres⟩ := handle_recorded hok draw answer s
      rw [← hconv.isOk_iff, hres]
      cases outcome draw told.2.2 <;> simp [Except.map, Except.isOk, Except.toBool]
    · have hrun := handle_run_error he draw (recorded answer) (s, [])
      simp [told, hrun, Except.isOk, Except.toBool]

end OutboxProvisioning
