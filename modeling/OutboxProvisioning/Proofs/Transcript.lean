import Mathlib.Data.List.Forall2
import OutboxProvisioning.Proofs.Protocol
import OutboxProvisioning.Sql.Scripted

/-!
# What is sent to a database

A database that writes down every statement with its reply (`Server.recording`) makes visible what a
call on the store is in statements.

* `Server.recording_poll`: writing down changes neither what comes of a poll nor the database.
* `Carries`: the statements that carry a call and its answer.
* `Server.run_carries`: what a program says is carried by statements, call after call.
-/

namespace OutboxProvisioning.Sql

variable {ω : Type}

/-- Whether a reply tells that something is there. -/
def Reply.truth? (r : Reply) : Except Error Bool :=
  match r.first? with
  | .error e => .error e
  | .ok row => row.get 0 (.numbered 0) Cell.truth?

/-- A statement with the reply to it. -/
structure Sent where
  statement : Statement
  reply : Reply

namespace Sent

/-- Whether the reply is what the statement was sent for: a question for a workspace is answered, a
publication changes some row, and nothing else is refused. -/
def works (x : Sent) : Bool :=
  match x.statement with
  | .workspaceExists _ => x.reply.truth?.isOk
  | .publishEvent _ _ =>
    match x.reply.affected? with
    | .ok n => n != 0
    | .error _ => false
  | _ =>
    match x.reply with
    | .refused _ => false
    | _ => true

/-- Whether the reply is that an organization has no workspace. -/
def isMissing (x : Sent) : Bool :=
  match x.statement, x.reply.truth? with
  | .workspaceExists _, .ok false => true
  | _, _ => false

end Sent

/-- A session without what was written down. -/
def Session.plain (s : Session (ω × List Sent)) : Session ω :=
  ⟨s.server.1, s.isOpen, s.isConnected, s.lost, s.reports, s.isBroken⟩

/-- A session in which nothing has been written down. -/
def Session.recorded (s : Session ω) : Session (ω × List Sent) :=
  ⟨(s.server, []), s.isOpen, s.isConnected, s.lost, s.reports, s.isBroken⟩

/-- What was sent in a session, and what was replied. -/
def Session.sent (s : Session (ω × List Sent)) : List Sent := s.server.2

namespace Server

variable (srv : Server ω)

/-- A database that writes down what it is sent and what it replies. -/
def recording : Server (ω × List Sent) where
  respond st w :=
    ((srv.respond st w.1).1, (srv.respond st w.1).2, w.2 ++ [⟨st, (srv.respond st w.1).1⟩])
  connect w := ((srv.connect w.1).1, (srv.connect w.1).2, w.2)

/-! ### Writing down changes nothing else -/

variable (s : Session (ω × List Sent))

theorem plain_send (st : Statement) : srv.send st s.plain =
    ((srv.recording.send st s).1, (srv.recording.send st s).2.plain) := rfl

theorem plain_dial : srv.dial s.plain =
    ((srv.recording.dial s).1, (srv.recording.dial s).2.plain) := rfl

theorem plain_hear : s.plain.hear = s.hear.plain := by
  obtain ⟨server, isOpen, isConnected, lost, reports, isBroken⟩ := s
  cases lost <;> rfl

theorem plain_acquire : srv.acquire s.plain =
    ((srv.recording.acquire s).1, (srv.recording.acquire s).2.plain) := by
  have hopen : s.plain.isOpen = s.isOpen := rfl
  have hconnected : s.hear.plain.isConnected = s.hear.isConnected := rfl
  simp only [acquire, plain_hear, plain_dial, hopen, hconnected]
  cases s.isOpen <;> cases s.hear.isConnected <;> rfl

theorem plain_abandon : srv.abandon s.plain = (srv.recording.abandon s).plain := by
  unfold abandon
  rw [plain_send]
  obtain ⟨reply, s'⟩ := srv.recording.send .rollback s
  cases reply <;> rfl

theorem plain_start : srv.start s.plain =
    ((srv.recording.start s).1, (srv.recording.start s).2.plain) := by
  unfold start
  rw [plain_acquire]
  obtain ⟨r, s₁⟩ := srv.recording.acquire s
  cases r with
  | error e => rfl
  | ok u =>
    dsimp only
    rw [plain_send]
    obtain ⟨reply, s₂⟩ := srv.recording.send .beginTransaction s₁
    cases reply with
    | refused r => exact congrArg (Prod.mk _) (srv.plain_abandon s₂)
    | _ => rfl

theorem plain_finish (st : Statement) : srv.finish st s.plain =
    ((srv.recording.finish st s).1, (srv.recording.finish st s).2.plain) := by
  unfold finish
  rw [plain_send]
  obtain ⟨reply, s₁⟩ := srv.recording.send st s
  cases reply with
  | refused r => exact congrArg (Prod.mk _) (srv.plain_abandon s₁)
  | _ => rfl

theorem plain_answer (c : Call) : srv.answer c s.plain =
    ((srv.recording.answer c s).1, (srv.recording.answer c s).2.plain) := by
  cases c with
  | beginTransaction => simp only [answer, plain_start]
  | workspaceExists o =>
    simp only [answer, exists?, plain_send]
    obtain ⟨reply, s₁⟩ := srv.recording.send (.workspaceExists o) s
    cases reply.first? <;> rfl
  | createWorkspace w => rfl
  | markPublished id t => rfl
  | commit => simp only [answer, plain_finish]
  | rollback => simp only [answer, plain_finish]

theorem plain_fetch (eventType : String) (limit : Nat) :
    srv.fetch eventType limit s.plain =
      ((srv.recording.fetch eventType limit s).1,
        (srv.recording.fetch eventType limit s).2.plain) := by
  have hbreak : ∀ (e : Error) (s : Session (ω × List Sent)),
      s.plain.noteBreak e = (s.noteBreak e).plain := by
    intro e s
    unfold Session.noteBreak
    split <;> rfl
  have hpending : srv.pending eventType limit s.plain =
      ((srv.recording.pending eventType limit s).1,
        (srv.recording.pending eventType limit s).2.plain) := by
    unfold pending
    rw [plain_acquire]
    obtain ⟨r, s₁⟩ := srv.recording.acquire s
    cases r with
    | error e => rfl
    | ok u =>
      dsimp only
      rw [plain_send]
      obtain ⟨reply, s₂⟩ := srv.recording.send (.pending eventType limit) s₁
      dsimp only
      cases reply.rows? >>= fun rows => rows.mapM Row.event with
      | error e => exact congrArg (Prod.mk _) (hbreak e s₂)
      | ok events => rfl
  simp only [fetch, hpending]

/-- **Writing down changes neither what comes of a poll nor the database.** -/
theorem recording_poll (config : ConsumerConfig) (draws : Nat → Draw) :
    srv.backend.poll config draws s.plain =
      let p := srv.recording.backend.poll config draws s
      ⟨p.result, p.log, p.state.plain⟩ :=
  Backend.poll_map Session.plain (fun eventType n s => srv.plain_fetch s eventType n)
    (fun c s => srv.plain_answer s c) (fun _ => rfl) config draws s

end Server

/-! ### Calls as statements -/

end Sql

open Sql (Statement Sent Session Server)

/-- The statement of a call. -/
def Call.statement : Call → Statement
  | .beginTransaction => .beginTransaction
  | .workspaceExists o => .workspaceExists o
  | .createWorkspace w => .insertWorkspace w
  | .markPublished id t => .publishEvent id t
  | .commit => .commit
  | .rollback => .rollback

/-- Whether a call neither begins nor ends a transaction. -/
def Call.isInside : Call → Bool
  | .workspaceExists _ | .createWorkspace _ | .markPublished _ _ => true
  | .beginTransaction | .commit | .rollback => false

namespace Sql

variable {ω : Type}

/-- **The statements that carry a call and its answer.** -/
inductive Carries : Exchange → List Sent → Prop
  /-- Inside a transaction a call is one statement. -/
  | asked {x : Exchange} {y : Sent} (h : x.call.isInside = true)
    (hstatement : y.statement = x.call.statement) (hworks : y.works = x.error?.isNone)
    (hmissing : y.isMissing = x.isMissing) : Carries x [y]
  /-- So is the begin or the end of a transaction, if it goes well. -/
  | done {x : Exchange} {y : Sent} (h : x.call.isInside = false) (he : x.error? = none)
    (hstatement : y.statement = x.call.statement) (hworks : y.works = true) : Carries x [y]
  /-- If not, a rollback follows. -/
  | undone {x : Exchange} {y z : Sent} (h : x.call.isInside = false) (he : x.error? ≠ none)
    (hstatement : y.statement = x.call.statement) (hworks : y.works = false)
    (hz : z.statement = .rollback) : Carries x [y, z]
  /-- There was no connection for a transaction. -/
  | waited {e : DomainError} : Carries ⟨.beginTransaction, .error e⟩ []

namespace Server

variable (srv : Server ω) (s : Session (ω × List Sent))

theorem send_sent (st : Statement) : (srv.recording.send st s).2.sent =
    s.sent ++ [⟨st, (srv.recording.send st s).1⟩] := rfl

theorem acquire_sent : (srv.recording.acquire s).2.sent = s.sent := by
  have hhear : s.hear.sent = s.sent := by
    unfold Session.hear
    split <;> rfl
  unfold acquire
  split
  · rfl
  · dsimp only
    split
    · exact hhear
    · exact hhear

/-- Giving a transaction up is one rollback, whatever the reply. -/
theorem abandon_sent : ∃ z : Sent, z.statement = .rollback ∧
    (srv.recording.abandon s).sent = s.sent ++ [z] ∧ (srv.recording.abandon s).isOpen = false := by
  have hsent := srv.send_sent s .rollback
  refine ⟨⟨.rollback, (srv.recording.send .rollback s).1⟩, rfl, ?_⟩
  unfold abandon
  rcases hreply : srv.recording.send .rollback s with ⟨reply, s'⟩
  rw [hreply] at hsent
  cases reply <;> exact ⟨hsent, rfl⟩

theorem exists?_eq (o : OrganizationId) : srv.recording.exists? o s =
    ((srv.recording.send (.workspaceExists o) s).1.truth?,
      (srv.recording.send (.workspaceExists o) s).2) := by
  unfold exists? Reply.truth?
  obtain ⟨reply, s'⟩ := srv.recording.send (.workspaceExists o) s
  cases hr : reply.first? <;> simp [hr]

/-- The end of a transaction: one statement, or two if the first is refused. -/
theorem finish_carries {c : Call} (st : Statement) (hst : c.statement = st)
    (hc : st = .commit ∨ st = .rollback) (task : String) (answer : c.Answer)
    (hanswer : (⟨c, answer⟩ : Exchange).error? =
      errorOf? ((srv.recording.finish st s).1.mapError (failed task))) :
    (∃ piece, (srv.recording.finish st s).2.sent = s.sent ++ piece ∧
      Carries ⟨c, answer⟩ piece) ∧ (srv.recording.finish st s).2.isOpen = false := by
  have hinside : c.isInside = false := by
    subst hst
    cases c <;> simp [Call.statement, Call.isInside] at hc ⊢
  have hworks : ∀ reply, (⟨st, reply⟩ : Sent).works =
      match reply with | .refused _ => false | _ => true := by
    intro reply
    rcases hc with rfl | rfl <;> rfl
  have hsent := srv.send_sent s st
  unfold finish at hanswer ⊢
  rcases hreply : srv.recording.send st s with ⟨reply, s'⟩
  rw [hreply] at hsent hanswer
  cases reply with
  | refused r =>
    -- the driver gives the transaction up, and that is one more rollback
    obtain ⟨z, hz, hrest, hclosed⟩ := srv.abandon_sent s'
    refine ⟨⟨[⟨st, .refused r⟩, z], ?_, .undone hinside ?_ hst.symm (hworks _) hz⟩, hclosed⟩
    · rw [hrest, hsent, List.append_assoc]
      rfl
    · rw [hanswer]
      simp [Except.mapError, errorOf?]
  | _ =>
    refine ⟨⟨_, hsent, .done hinside ?_ hst.symm (hworks _)⟩, rfl⟩
    rw [hanswer]
    simp [Except.mapError, errorOf?]

/-- The begin of a transaction, if there is a connection for it. -/
theorem begin_carries : ∃ piece,
    (srv.recording.answer .beginTransaction s).2.sent = s.sent ++ piece ∧
      Carries ⟨.beginTransaction, (srv.recording.answer .beginTransaction s).1⟩ piece ∧
      ((srv.recording.acquire s).1 = .ok () → piece ≠ []) := by
  have hacquire := srv.acquire_sent s
  simp only [answer, start]
  rcases hr : srv.recording.acquire s with ⟨r, s₁⟩
  rw [hr] at hacquire
  cases r with
  | error e => exact ⟨[], by simpa using hacquire, .waited, fun h => by cases h⟩
  | ok u =>
    have hsent := srv.send_sent s₁ .beginTransaction
    dsimp only
    rcases hreply : srv.recording.send .beginTransaction s₁ with ⟨reply, s₂⟩
    rw [hreply] at hsent
    rw [hacquire] at hsent
    cases reply with
    | refused r =>
      obtain ⟨z, hz, hrest, -⟩ := srv.abandon_sent s₂
      refine ⟨[⟨.beginTransaction, .refused r⟩, z], ?_, .undone rfl ?_ rfl rfl hz, by simp⟩
      · simp only [hrest, hsent, List.append_assoc, List.cons_append, List.nil_append]
      · simp [Except.mapError, Exchange.error?, errorOf?]
    | rows rs => exact ⟨_, hsent, .done rfl rfl rfl rfl, by simp⟩
    | affected n => exact ⟨_, hsent, .done rfl rfl rfl rfl, by simp⟩

/-- **Every call is carried by statements.** -/
theorem answer_carries (c : Call) : ∃ piece, (srv.recording.answer c s).2.sent = s.sent ++ piece ∧
    Carries ⟨c, (srv.recording.answer c s).1⟩ piece := by
  cases c with
  | workspaceExists o =>
    simp only [answer, exists?_eq]
    refine ⟨_, srv.send_sent s _, .asked rfl rfl ?_ ?_⟩
    · cases hr : (srv.recording.send (.workspaceExists o) s).1.truth? <;>
        simp [Sent.works, hr, Exchange.error?, errorOf?, Except.mapError, Except.isOk,
          Except.toBool]
    · cases hr : (srv.recording.send (.workspaceExists o) s).1.truth? with
      | error e => simp [Sent.isMissing, hr, Exchange.isMissing, Except.mapError]
      | ok found => cases found <;> simp [Sent.isMissing, hr, Exchange.isMissing, Except.mapError]
  | createWorkspace w =>
    refine ⟨_, srv.send_sent s (.insertWorkspace w), .asked rfl rfl ?_ rfl⟩
    simp only [answer]
    cases (srv.recording.send (.insertWorkspace w) s).1 <;> rfl
  | markPublished id t =>
    refine ⟨_, srv.send_sent s (.publishEvent id t), .asked rfl rfl ?_ rfl⟩
    simp only [answer]
    cases hr : (srv.recording.send (.publishEvent id t) s).1.affected? with
    | error e => simp [Sent.works, hr, published, Exchange.error?, errorOf?]
    | ok n => cases n <;> simp [Sent.works, hr, published, Exchange.error?, errorOf?]
  | beginTransaction =>
    obtain ⟨piece, hsent, hcarries, -⟩ := srv.begin_carries s
    exact ⟨piece, hsent, hcarries⟩
  | commit => exact (srv.finish_carries s .commit rfl (.inl rfl) _ _ rfl).1
  | rollback => exact (srv.finish_carries s .rollback rfl (.inr rfl) _ _ rfl).1

/-- **What a program says is carried by statements**, call after call. -/
theorem run_carries {α : Type} (p : Program α) (seen : List Exchange) :
    let told := p.run (recorded srv.recording.answer) (s, seen)
    ∃ xs pieces, told.2.2 = seen ++ xs ∧ told.2.1.sent = s.sent ++ List.flatten pieces ∧
      List.Forall₂ Carries xs pieces := by
  -- what a program says depends on no earlier exchange, but it is recorded after them
  induction p generalizing s seen with
  | done a => exact ⟨[], [], by simp [Program.run], by simp [Program.run], .nil⟩
  | call c next ih =>
    obtain ⟨piece, hsent, hcarries⟩ := srv.answer_carries s c
    obtain ⟨xs, pieces, hxs, hpieces, hall⟩ := ih (srv.recording.answer c s).1
      (srv.recording.answer c s).2 (seen ++ [⟨c, (srv.recording.answer c s).1⟩])
    refine ⟨⟨c, (srv.recording.answer c s).1⟩ :: xs, piece :: pieces, ?_, ?_, .cons hcarries hall⟩
    · rw [Program.run_call_recorded, hxs, List.append_assoc]
      rfl
    · rw [Program.run_call_recorded, hpieces, hsent, List.append_assoc]
      rfl

end Server

end Sql

end OutboxProvisioning
