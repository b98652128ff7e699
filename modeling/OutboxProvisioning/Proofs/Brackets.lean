import OutboxProvisioning.Proofs.Transcript

/-!
# The statements of a poll

A poll asks a database for the pending events, and then there is one bracket of statements for each
event whose payload names an organization: from a begin to the commit or rollback that ends it.

* `Bracket`: the statements for one event, with the replies to them.
* `bracket_of_conversation`: a conversation that is carried by statements is a bracket.
* `poll_statements`: **what a poll sends, whatever the database replies.**
-/

namespace OutboxProvisioning

open Sql (Statement Sent Session Server Carries)

/-- The statements of a body in which nothing fails. -/
def bodyStatements (event : EventId) (o : OrganizationId) (draw : Draw) (missing : Bool) :
    List Statement :=
  [.workspaceExists o] ++
    (if missing then [.insertWorkspace ⟨draw.workspaceId, o, draw.now⟩] else []) ++
    [.publishEvent event draw.now]

/-- **The body of a bracket**: its statements in their order up to the first that does not work, the
one for a new workspace exactly after the reply that there is none. -/
structure Body (event : EventId) (o : OrganizationId) (draw : Draw) (ys : List Sent) : Prop where
  statements : ys.map Sent.statement <+: bodyStatements event o draw (ys.any Sent.isMissing)
  early : ∀ y ∈ ys.dropLast, y.works = true
  complete : (∀ y ∈ ys, y.works = true) →
    ys.map Sent.statement = bodyStatements event o draw (ys.any Sent.isMissing)

/-- The end of a bracket: one statement, and a rollback if that is refused. -/
inductive Ending (st : Statement) : List Sent → Prop
  | done {y : Sent} (h : y.statement = st) (hworks : y.works = true) : Ending st [y]
  | undone {y z : Sent} (h : y.statement = st) (hworks : y.works = false)
    (hz : z.statement = .rollback) : Ending st [y, z]

/-- **The statements for one event.** -/
inductive Bracket (event : EventId) (o : OrganizationId) (draw : Draw) : List Sent → Prop
  /-- The begin is refused, and nothing but a rollback follows. -/
  | refused {y z : Sent} (h : y.statement = .beginTransaction) (hworks : y.works = false)
    (hz : z.statement = .rollback) : Bracket event o draw [y, z]
  /-- The bracket ends with a commit when its whole body works, and with a rollback when not. -/
  | held {y : Sent} {body ending : List Sent} (h : y.statement = .beginTransaction)
    (hworks : y.works = true) (hbody : Body event o draw body)
    (hending : Ending (if body.all Sent.works then .commit else .rollback) ending) :
    Bracket event o draw (y :: body ++ ending)

/-- Whether some commit among these statements worked. -/
def commits (ys : List Sent) : Prop := ∃ y ∈ ys, y.statement = .commit ∧ y.works = true

section
variable {event : EventId} {o : OrganizationId} {draw : Draw} {xs body : List Exchange}
  {pieces : List (List Sent)} {ys : List Sent}

/-- What a call and the statement for it have in common. -/
def Exchange.profile (x : Exchange) : Statement × Bool × Bool :=
  (x.call.statement, x.error?.isNone, x.isMissing)

/-- The same of the statement. -/
def Sql.Sent.profile (y : Sent) : Statement × Bool × Bool := (y.statement, y.works, y.isMissing)

theorem bodyStatements_eq (missing : Bool) :
    bodyStatements event o draw missing = (bodyCalls event o draw missing).map Call.statement := by
  cases missing <;> rfl

theorem all_works (h : ys.map Sent.profile = xs.map Exchange.profile) :
    ys.all Sent.works = xs.all fun x => x.error?.isNone := by
  have hall := congrArg (List.all · fun p => p.2.1) h
  rw [List.all_map, List.all_map] at hall
  exact hall

/-- Statements that tell what the calls of a body told are the body of a bracket. -/
theorem IsBody.statements (h : IsBody event o draw body)
    (hprofile : ys.map Sent.profile = body.map Exchange.profile) : Body event o draw ys := by
  -- the three parts of the profile, one after another
  have hstatements : ys.map Sent.statement = (body.map Exchange.call).map Call.statement := by
    have hfirst := congrArg (List.map Prod.fst) hprofile
    rw [List.map_map, List.map_map] at hfirst
    rw [List.map_map]
    exact hfirst
  have hmissing : ys.any Sent.isMissing = missing body := by
    have hany := congrArg (List.any · fun p => p.2.2) hprofile
    rw [List.any_map, List.any_map] at hany
    exact hany
  have hearly : ys.dropLast.all Sent.works = body.dropLast.all fun x => x.error?.isNone := by
    refine all_works ?_
    rw [List.map_dropLast, List.map_dropLast, hprofile]
  refine ⟨?_, ?_, ?_⟩
  · rw [hstatements, hmissing, bodyStatements_eq]
    exact h.calls.map _
  · intro y hy
    have hnone : (body.dropLast.all fun x => x.error?.isNone) = true :=
      List.all_eq_true.mpr fun x hx => by simp [h.early x hx]
    exact List.all_eq_true.mp (hearly.trans hnone) y hy
  · intro hall
    have hworks : (body.all fun x => x.error?.isNone) = true :=
      (all_works hprofile).symm.trans (List.all_eq_true.mpr hall)
    rw [hstatements, hmissing, bodyStatements_eq]
    refine congrArg _ (h.complete fun x hx => ?_)
    simpa using List.all_eq_true.mp hworks x hx

/-- A call inside a transaction is carried by a statement that tells the same. -/
theorem carries_inside (hbody : ∀ x ∈ body, x.call.isInside = true)
    (h : List.Forall₂ Carries body pieces) :
    ∃ ys : List Sent, pieces.flatten = ys ∧ ys.map Sent.profile = body.map Exchange.profile := by
  induction h with
  | nil => exact ⟨[], rfl, rfl⟩
  | @cons x piece body pieces hx hrest ih =>
    obtain ⟨ys, hys, hprofile⟩ := ih fun x hx => hbody x (List.mem_cons_of_mem _ hx)
    have hinside := hbody x List.mem_cons_self
    cases hx with
    | @asked _ y h hstatement hworks hmissing =>
      refine ⟨y :: ys, by simp [hys], ?_⟩
      simp [hprofile, Sent.profile, Exchange.profile, hstatement, hworks, hmissing]
    | done h => simp [hinside] at h
    | undone h => simp [hinside] at h
    | waited => cases hinside

theorem IsBody.inside (h : IsBody event o draw body) : ∀ x ∈ body, x.call.isInside = true := by
  intro x hx
  have hm := h.mem_calls hx
  cases hmissing : missing body <;> simp [bodyCalls, hmissing] at hm
  · rcases hm with hm | hm <;> simp [hm, Call.isInside]
  · rcases hm with hm | hm | hm <;> simp [hm, Call.isInside]

/-- The last call is carried by the end of a bracket. -/
theorem carries_ending {x : Exchange} {piece : List Sent}
    (hc : x.call = .commit ∨ x.call = .rollback) (h : Carries x piece) :
    Ending x.call.statement piece := by
  have hinside : x.call.isInside = false := by rcases hc with hc | hc <;> simp [hc, Call.isInside]
  cases h with
  | asked h => simp [hinside] at h
  | done h he hstatement hworks => exact .done hstatement hworks
  | undone h he hstatement hworks hz => exact .undone hstatement hworks hz
  | waited => simp at hc

theorem carries_concat {last : Exchange} (h : List.Forall₂ Carries (body ++ [last]) pieces) :
    ∃ pieces' piece, pieces = pieces' ++ [piece] ∧ List.Forall₂ Carries body pieces' ∧
      Carries last piece := by
  induction body generalizing pieces with
  | nil =>
    obtain ⟨piece, rest, hpiece, hrest, rfl⟩ := List.forall₂_cons_left_iff.mp h
    cases hrest
    exact ⟨[], piece, rfl, .nil, hpiece⟩
  | cons x body ih =>
    obtain ⟨first, rest, hfirst, hrest, rfl⟩ := List.forall₂_cons_left_iff.mp h
    obtain ⟨pieces', piece, rfl, hbody, hlast⟩ := ih hrest
    exact ⟨first :: pieces', piece, rfl, .cons hfirst hbody, hlast⟩

/-- **A conversation that is carried by statements is a bracket**, if there was a connection. -/
theorem bracket_of_conversation (h : IsConversation event o draw xs)
    (hcarries : List.Forall₂ Carries xs pieces) (hconnected : pieces.head? ≠ some []) :
    Bracket event o draw pieces.flatten := by
  cases h with
  | refused e =>
    obtain ⟨piece, rest, hpiece, hrest, rfl⟩ := List.forall₂_cons_left_iff.mp hcarries
    cases hrest
    cases hpiece with
    | asked h => cases h
    | done h he => simp [Exchange.error?, errorOf?] at he
    | undone h he hstatement hworks hz =>
      simpa using Bracket.refused hstatement hworks hz
    | waited => simp at hconnected
  | @held body last hbody hlast =>
    rw [List.cons_append] at hcarries
    obtain ⟨first, rest, hfirst, hrest, rfl⟩ := List.forall₂_cons_left_iff.mp hcarries
    obtain ⟨pieces', piece, rfl, hinside, hend⟩ := carries_concat hrest
    obtain ⟨ys, hys, hprofile⟩ := carries_inside hbody.inside hinside
    have hcall : last.call = .commit ∨ last.call = .rollback := by
      rw [hlast, ending]
      split
      · exact .inl rfl
      · exact .inr rfl
    have hending : Ending (if ys.all Sent.works then .commit else .rollback) piece := by
      have hlast' := carries_ending hcall hend
      rw [hlast, ending] at hlast'
      rw [all_works hprofile]
      rwa [apply_ite Call.statement] at hlast'
    cases hfirst with
    | asked h => cases h
    | @done _ y h he hstatement hworks =>
      have hbracket := Bracket.held hstatement hworks (hbody.statements hprofile) hending
      simpa [hys] using hbracket
    | undone h he => exact absurd rfl he

/-- A commit that works is one that is answered so. -/
theorem carries_commit {x : Exchange} {piece : List Sent} (h : Carries x piece) :
    commits piece ↔ ⟨.commit, .ok ()⟩ = x := by
  obtain ⟨c, a⟩ := x
  cases h with
  | @asked _ y hinside hstatement hworks hmissing =>
    have hne : y.statement ≠ .commit := by
      rw [hstatement]
      cases c <;> simp [Call.isInside] at hinside <;> simp [Call.statement]
    have hcall : c ≠ .commit := by
      rintro rfl
      cases hinside
    simp [commits, hne, Ne.symm hcall]
  | @done _ y hinside he hstatement hworks =>
    cases c with
    | commit =>
      have hok : a = .ok () := by
        cases a with
        | error e => cases he
        | ok u => rfl
      simp [commits, hstatement, Call.statement, hworks, hok]
    | _ => simp [commits, hstatement, Call.statement]
  | @undone _ y z hinside he hstatement hworks hz =>
    have hne : (⟨.commit, .ok ()⟩ : Exchange) ≠ ⟨c, a⟩ := by
      intro heq
      rw [← heq] at he
      exact he rfl
    simp [commits, hworks, hz, hne]
  | waited => simp [commits]

theorem carries_commits (h : List.Forall₂ Carries xs pieces) :
    commits pieces.flatten ↔ ⟨.commit, .ok ()⟩ ∈ xs := by
  induction h with
  | nil => simp [commits]
  | @cons x piece xs pieces hx hrest ih =>
    have hsplit : commits (piece :: pieces).flatten ↔ commits piece ∨ commits pieces.flatten := by
      simp [commits, or_and_right, exists_or]
    rw [hsplit, carries_commit hx, ih, List.mem_cons]

end

/-! ### One event -/

namespace Sql

variable {ω : Type}

/-- A database that takes every connection, whatever is sent to it. -/
def Server.Accepts (srv : Server ω) (w : ω) : Prop :=
  ∃ P : ω → Prop, P w ∧ ∀ w, P w →
    (srv.connect w).1 = .ok () ∧ P (srv.connect w).2 ∧ ∀ st, P (srv.respond st w).2

namespace Server

variable {srv : Server ω} {s : Session ω} {P : ω → Prop}

theorem hear_server (s : Session ω) : s.hear.server = s.server := by
  unfold Session.hear
  split <;> rfl

theorem abandon_server (hr : ∀ st w, P w → P (srv.respond st w).2) (h : P s.server) :
    P (srv.abandon s).server := by
  have hsent : P (srv.send .rollback s).2.server := hr _ _ h
  unfold abandon
  rcases hreply : srv.send .rollback s with ⟨reply, s'⟩
  rw [hreply] at hsent
  cases reply <;> exact hsent

theorem acquire_server (srv : Server ω) (hc : ∀ w, P w → P (srv.connect w).2) (h : P s.server) :
    P (srv.acquire s).2.server := by
  rw [← hear_server] at h
  unfold acquire
  split
  · rwa [hear_server] at h
  · dsimp only
    split
    · exact h
    · exact hc _ h

theorem finish_server (hr : ∀ st w, P w → P (srv.respond st w).2) (st : Statement)
    (h : P s.server) : P (srv.finish st s).2.server := by
  have hsent : P (srv.send st s).2.server := hr _ _ h
  unfold finish
  rcases hreply : srv.send st s with ⟨reply, s'⟩
  rw [hreply] at hsent
  cases reply with
  | refused r => exact abandon_server hr hsent
  | _ => exact hsent

theorem start_server (hc : ∀ w, P w → P (srv.connect w).2)
    (hr : ∀ st w, P w → P (srv.respond st w).2) (h : P s.server) : P (srv.start s).2.server := by
  have hacquire : P (srv.acquire s).2.server := srv.acquire_server hc h
  unfold start
  rcases hconn : srv.acquire s with ⟨r, s₁⟩
  rw [hconn] at hacquire
  cases r with
  | error e => exact hacquire
  | ok u =>
    have hsent : P (srv.send .beginTransaction s₁).2.server := hr _ _ hacquire
    dsimp only
    rcases hreply : srv.send .beginTransaction s₁ with ⟨reply, s₂⟩
    rw [hreply] at hsent
    cases reply with
    | refused r => exact abandon_server hr hsent
    | _ => exact hsent

/-- What every reply and every connection keeps of the database, every call keeps. -/
theorem answer_server (srv : Server ω) (hc : ∀ w, P w → P (srv.connect w).2)
    (hr : ∀ st w, P w → P (srv.respond st w).2) (c : Call) (h : P s.server) :
    P (srv.answer c s).2.server := by
  cases c with
  | beginTransaction => exact start_server hc hr h
  | workspaceExists o =>
    have hsent : P (srv.send (.workspaceExists o) s).2.server := hr _ _ h
    simp only [answer, exists?]
    rcases hreply : srv.send (.workspaceExists o) s with ⟨reply, s'⟩
    rw [hreply] at hsent
    dsimp only
    split <;> exact hsent
  | createWorkspace w => exact hr _ _ h
  | markPublished id t => exact hr _ _ h
  | commit => exact finish_server hr .commit h
  | rollback => exact finish_server hr .rollback h

theorem abandon_closed (s : Session ω) : (srv.abandon s).isOpen = false := by
  unfold abandon
  obtain ⟨reply, s'⟩ := srv.send .rollback s
  cases reply <;> rfl

theorem finish_closed (st : Statement) (s : Session ω) : (srv.finish st s).2.isOpen = false := by
  unfold finish
  obtain ⟨reply, s'⟩ := srv.send st s
  cases reply with
  | refused r => exact abandon_closed s'
  | _ => rfl

theorem hear_isOpen (s : Session ω) : s.hear.isOpen = s.isOpen := by
  unfold Session.hear
  split <;> rfl

theorem acquire_isOpen (srv : Server ω) (s : Session ω) : (srv.acquire s).2.isOpen = s.isOpen := by
  unfold acquire
  split
  · rfl
  · dsimp only
    split
    · exact hear_isOpen s
    · exact hear_isOpen s

theorem start_closed (h : s.isOpen = false) {e : Error} (he : (srv.start s).1 = .error e) :
    (srv.start s).2.isOpen = false := by
  have hacquire := srv.acquire_isOpen s
  unfold start at he ⊢
  rcases hconn : srv.acquire s with ⟨r, s₁⟩
  rw [hconn] at hacquire he
  cases r with
  | error e => exact hacquire.trans h
  | ok u =>
    dsimp only at he ⊢
    rcases hreply : srv.send .beginTransaction s₁ with ⟨reply, s₂⟩
    rw [hreply] at he
    cases reply with
    | refused r => exact abandon_closed s₂
    | _ => cases he

/-- No event leaves a transaction open. -/
theorem handle_closed (h : s.isOpen = false) (cmd : Command) (draw : Draw) :
    ((handle cmd draw).run srv.answer s).2.isOpen = false := by
  refine handle_closes (P := fun s : Session ω => s.isOpen = false) ?_ (fun s => finish_closed _ s)
    (fun s => finish_closed _ s) cmd draw s h
  intro s e hs he
  simp only [answer] at he ⊢
  cases hr : (srv.start s).1 with
  | error e' => exact start_closed hs hr
  | ok u =>
    rw [hr] at he
    simp [Except.mapError] at he

/-- A session is ready when no transaction is open and there will be a connection for one. -/
structure Ready (srv : Server ω) (s : Session (ω × List Sent)) : Prop where
  closed : s.isOpen = false
  accepts : srv.Accepts s.server.1

theorem Ready.acquire {s : Session (ω × List Sent)} (h : srv.Ready s) :
    (srv.recording.acquire s).1 = .ok () := by
  obtain ⟨P, hw, hP⟩ := h.accepts
  unfold Server.acquire
  rw [h.closed]
  simp only [Bool.false_eq_true, if_false]
  split
  · rfl
  · have hserver := hear_server s
    simp only [dial, recording, hserver]
    exact (hP _ hw).1

theorem Ready.handle {s : Session (ω × List Sent)} (h : srv.Ready s) (cmd : Command) (draw : Draw) :
    srv.Ready ((OutboxProvisioning.handle cmd draw).run srv.recording.answer s).2 := by
  obtain ⟨P, hw, hP⟩ := h.accepts
  refine ⟨handle_closed h.closed cmd draw, P, ?_, hP⟩
  exact Program.run_preserves (P := fun s : Session (ω × List Sent) => P s.server.1)
    (fun c s hs => srv.recording.answer_server (P := fun w => P w.1)
      (fun w hw => (hP _ hw).2.1) (fun st w hw => (hP _ hw).2.2 st) c hs) _ hw

/-- **The statements for an event whose payload names an organization.** -/
theorem Ready.bracket {s : Session (ω × List Sent)} (h : srv.Ready s) {cmd : Command} {p : Payload}
    {o : OrganizationId} (hsubject : cmd.subject = .ok (p, o)) (draw : Draw) :
    let done := (OutboxProvisioning.handle cmd draw).run srv.recording.answer s
    ∃ sent, done.2.sent = s.sent ++ sent ∧ Bracket cmd.eventId o draw sent ∧
      (done.1.result.isOk = true ↔ commits sent) := by
  obtain ⟨piece, hpiece, hbegin, hconnected⟩ := srv.begin_carries s
  obtain ⟨hconversation, hresult⟩ := handle_recorded hsubject draw srv.recording.answer s
  obtain ⟨hanswer, hstate⟩ :=
    Program.run_recorded srv.recording.answer (OutboxProvisioning.handle cmd draw) s []
  -- the statements of the begin, and then those of all other calls
  have hrest : ∃ xs pieces,
      ((OutboxProvisioning.handle cmd draw).run (recorded srv.recording.answer) (s, [])).2.2 =
        ⟨.beginTransaction, (srv.recording.answer .beginTransaction s).1⟩ :: xs ∧
      ((OutboxProvisioning.handle cmd draw).run (recorded srv.recording.answer) (s, [])).2.1.sent =
        s.sent ++ List.flatten (piece :: pieces) ∧ List.Forall₂ Carries xs pieces := by
    unfold OutboxProvisioning.handle
    rw [hsubject]
    dsimp only
    rw [Program.run_call_recorded]
    obtain ⟨xs, pieces, hxs, hpieces, hall⟩ := srv.run_carries
      (srv.recording.answer .beginTransaction s).2 _
      ([] ++ [⟨.beginTransaction, (srv.recording.answer .beginTransaction s).1⟩])
    refine ⟨xs, pieces, hxs, ?_, hall⟩
    rw [hpieces, hpiece, List.flatten_cons, List.append_assoc]
  obtain ⟨xs, pieces, hxs, hpieces, hall⟩ := hrest
  have hcarries : List.Forall₂ Carries (_ :: xs) (piece :: pieces) := .cons hbegin hall
  rw [hxs] at hconversation hresult
  refine ⟨List.flatten (piece :: pieces), ?_, ?_, ?_⟩
  · rw [← hpieces, hstate]
  · refine bracket_of_conversation hconversation hcarries ?_
    simpa using hconnected h.acquire
  · rw [← hanswer, hresult, carries_commits hcarries, ← hconversation.isOk_iff]
    cases outcome draw _ <;> simp [Except.map, Except.isOk, Except.toBool]

end Server

end Sql

/-! ### A whole poll -/

/-- **What was sent for one event**, and what came of it. -/
structure Served (e : Event) (draw : Draw) (x : EventOutcome) (sent : List Sent) : Prop where
  id : x.eventId = e.id
  rejected : ∀ err, (Payload.decode e.payload = .error err ∨
    ∃ p, Payload.decode e.payload = .ok p ∧ p.organization = .error err) →
    sent = [] ∧ x.result = .error err
  accepted : ∀ p o, Payload.decode e.payload = .ok p → p.organization = .ok o →
    Bracket e.id o draw sent
  outcome : x.result.isOk = true ↔ commits sent

/-- What was sent for some events in their order, and what came of them. -/
inductive InOrder (draws : Nat → Draw) :
    Nat → List Event → List EventOutcome → List (List Sent) → Prop
  | nil (n : Nat) : InOrder draws n [] [] []
  | cons {n : Nat} {e : Event} {x : EventOutcome} {sent : List Sent} {es : List Event}
    {xs : List EventOutcome} {brackets : List (List Sent)} (h : Served e (draws n) x sent)
    (hrest : InOrder draws (n + 1) es xs brackets) :
    InOrder draws n (e :: es) (x :: xs) (sent :: brackets)

namespace Sql.Server

variable {ω : Type} {srv : Server ω} {s : Session (ω × List Sent)}

theorem Ready.served (h : srv.Ready s) (e : Event) (draw : Draw) :
    let done := (OutboxProvisioning.handle e.command draw).run srv.recording.answer s
    ∃ sent, done.2.sent = s.sent ++ sent ∧ Served e draw ⟨e.id, done.1.result⟩ sent := by
  -- a payload is decoded before anything is sent
  rcases e.command.subject_cases with ⟨p, o, hp, ho, hsubject⟩ | ⟨err, hsubject⟩
  · obtain ⟨sent, hsent, hbracket, houtcome⟩ := h.bracket hsubject draw
    refine ⟨sent, hsent, rfl, ?_, ?_, houtcome⟩
    · intro err herr
      have herror : e.command.subject = .error err := Command.subject_of_error herr
      cases hsubject.symm.trans herror
    · intro p' o' hp' ho'
      have hok : e.command.subject = .ok (p', o') := Command.subject_of_ok hp' ho'
      cases hsubject.symm.trans hok
      exact hbracket
  · have hrun := handle_run_error hsubject draw srv.recording.answer s
    refine ⟨[], by simp [hrun], rfl, ?_, ?_, ?_⟩
    · intro err' herr'
      have herror : e.command.subject = .error err' := Command.subject_of_error herr'
      cases hsubject.symm.trans herror
      exact ⟨rfl, by rw [hrun]⟩
    · intro p o hp ho
      have hok : e.command.subject = .ok (p, o) := Command.subject_of_ok hp ho
      cases hsubject.symm.trans hok
    · simp [hrun, commits, Except.isOk, Except.toBool]

/-- **The statements for a batch**: one bracket after another. -/
theorem Ready.process (h : srv.Ready s) (draws : Nat → Draw) (first : Nat) (es : List Event) :
    let done := srv.recording.backend.process draws first es s
    ∃ brackets, done.2.2.sent = s.sent ++ List.flatten brackets ∧
      InOrder draws first es done.1 brackets := by
  induction es generalizing s first with
  | nil => exact ⟨[], by simp [Backend.process], .nil first⟩
  | cons e es ih =>
    obtain ⟨sent, hsent, hserved⟩ := h.served e (draws first)
    let s₁ := ((OutboxProvisioning.handle e.command (draws first)).run srv.recording.answer s).2
    have hready : srv.Ready s₁.takeReports.2 := by
      obtain ⟨hclosed, haccepts⟩ := h.handle e.command (draws first)
      exact ⟨hclosed, haccepts⟩
    obtain ⟨brackets, hbrackets, hinorder⟩ := ih hready (first + 1)
    refine ⟨sent :: brackets, ?_, .cons hserved hinorder⟩
    have htaken : s₁.takeReports.2.sent = s.sent ++ sent := hsent
    rw [htaken] at hbrackets
    rw [List.flatten_cons, ← List.append_assoc]
    exact hbrackets

/-- The fetch is one statement. -/
theorem Ready.fetch (h : srv.Ready s) (eventType : String) (limit : Nat) :
    let done := srv.recording.fetch eventType limit s
    srv.Ready done.2 ∧ ∃ reply, done.2.sent = s.sent ++ [⟨.pending eventType limit, reply⟩] ∧
      match reply.rows? >>= fun rows => rows.mapM Row.event with
      | .error _ => ∃ e, done.1 = .error e
      | .ok events => done.1 = .ok events := by
  have hconn := h.acquire
  have hsent := srv.acquire_sent s
  have hopen := srv.recording.acquire_isOpen s
  obtain ⟨P, hw, hP⟩ := h.accepts
  have hserver : P (srv.recording.acquire s).2.server.1 :=
    srv.recording.acquire_server (P := fun w => P w.1) (fun w hw => (hP _ hw).2.1) hw
  simp only [Server.fetch, pending]
  rcases hacquire : srv.recording.acquire s with ⟨r, s₁⟩
  rw [hacquire] at hconn hsent hopen hserver
  simp only at hconn
  subst hconn
  dsimp only
  have hnext := srv.send_sent s₁ (.pending eventType limit)
  have hkept : P (srv.recording.send (.pending eventType limit) s₁).2.server.1 :=
    (hP _ hserver).2.2 _
  have hclosed : (srv.recording.send (.pending eventType limit) s₁).2.isOpen = false :=
    hopen.trans h.closed
  rcases hreply : srv.recording.send (.pending eventType limit) s₁ with ⟨reply, s₂⟩
  rw [hreply] at hnext hkept hclosed
  rw [show s₁.sent = s.sent from hsent] at hnext
  dsimp only
  cases hrows : reply.rows? >>= fun rows => rows.mapM Row.event with
  | error e =>
    have hbreak : (s₂.noteBreak e).sent = s₂.sent ∧ (s₂.noteBreak e).isOpen = s₂.isOpen ∧
        (s₂.noteBreak e).server = s₂.server := by
      unfold Session.noteBreak
      split <;> exact ⟨rfl, rfl, rfl⟩
    obtain ⟨hsame, hstill, hserver'⟩ := hbreak
    refine ⟨⟨hstill.trans hclosed, P, ?_, hP⟩, reply, hsame.trans hnext, ?_⟩
    · rw [hserver']
      exact hkept
    · rw [hrows]
      exact ⟨_, rfl⟩
  | ok events =>
    refine ⟨⟨hclosed, P, hkept, hP⟩, reply, hnext, ?_⟩
    rw [hrows]
    rfl

end Sql.Server

/-- **What a poll sends**, whatever a database replies that takes every connection. First the
pending events are asked for, and when that fails nothing else is sent. Else one bracket follows
another in the order of the rows, one for each event whose payload names an organization and none
for the others, and an event is provisioned exactly when a commit of its bracket worked. That the
statements are written down changes neither what comes of the poll nor the database. -/
theorem poll_statements {ω : Type} (srv : Server ω) {s : Session ω} (hclosed : s.isOpen = false)
    (haccepts : srv.Accepts s.server) (config : ConsumerConfig) (draws : Nat → Draw) :
    let told := srv.recording.backend.poll config draws s.recorded
    srv.backend.poll config draws s = ⟨told.result, told.log, told.state.plain⟩ ∧
    ∃ reply rest,
      told.state.sent = ⟨.pending config.eventType config.batchSize, reply⟩ :: rest ∧
      match reply.rows? >>= fun rows => rows.mapM Sql.Row.event with
      | .error _ => rest = [] ∧ told.result.isOk = false
      | .ok events => ∃ outcomes brackets, told.result = .ok ⟨outcomes⟩ ∧
          rest = List.flatten brackets ∧ InOrder draws 0 events outcomes brackets := by
  intro told
  refine ⟨srv.recording_poll s.recorded config draws, ?_⟩
  have hready : srv.Ready s.recorded := ⟨hclosed, haccepts⟩
  obtain ⟨hfetched, reply, hsent, hevents⟩ := hready.fetch config.eventType config.batchSize
  simp only [told, Backend.poll, Sql.Server.backend, Backend.pollFetched]
  rcases hfetch : srv.recording.fetch config.eventType config.batchSize s.recorded with ⟨r, s₁⟩
  rw [hfetch] at hfetched hsent hevents
  -- what is reported on the way changes neither the connection nor what was sent
  have htaken : srv.Ready s₁.takeReports.2 := ⟨hfetched.closed, hfetched.accepts⟩
  cases hrows : reply.rows? >>= fun rows => rows.mapM Sql.Row.event with
  | error e =>
    rw [hrows] at hevents
    obtain ⟨err, herr⟩ := hevents
    dsimp only at herr
    subst herr
    refine ⟨reply, [], hsent, ?_⟩
    rw [hrows]
    exact ⟨rfl, rfl⟩
  | ok events =>
    rw [hrows] at hevents
    dsimp only at hevents
    subst hevents
    obtain ⟨brackets, hbrackets, hinorder⟩ := htaken.process draws 0 events
    refine ⟨reply, List.flatten brackets, ?_, ?_⟩
    · refine hbrackets.trans ?_
      rw [show s₁.takeReports.2.sent = _ from hsent]
      rfl
    · rw [hrows]
      exact ⟨_, brackets, rfl, rfl, hinorder⟩

namespace Sql.Scripted

theorem mem_of_take {text : String} {ps rest : List Planned} {p q : Planned}
    (h : take text ps = some (p, rest)) (hq : q ∈ rest) : q ∈ ps := by
  induction ps generalizing p rest with
  | nil => cases h
  | cons x ps ih =>
    simp only [take] at h
    split at h
    · cases h
      exact List.mem_cons_of_mem _ hq
    · obtain ⟨⟨p', rest'⟩, htake, hrest⟩ := Option.map_eq_some_iff.mp h
      cases hrest
      rcases List.mem_cons.mp hq with rfl | hq
      · exact List.mem_cons_self
      · exact List.mem_cons_of_mem _ (ih htake hq)

theorem greet_of_unplanned {ps : List Planned} (h : ∀ p ∈ ps, p.words ≠ startup) :
    greet ps = (.ok (), ps) := by
  induction ps with
  | nil => rfl
  | cons p ps ih =>
    have hrest := ih fun q hq => h q (List.mem_cons_of_mem _ hq)
    simp [greet, h p List.mem_cons_self, hrest]

/-- A database that replies by a script takes every connection if none is planned to be refused. -/
theorem accepts {s : Scripted} (h : ∀ p ∈ s.planned, p.words ≠ startup) : server.Accepts s := by
  refine ⟨fun s => ∀ p ∈ s.planned, p.words ≠ startup, h, ?_⟩
  intro s hs
  have hgreet := greet_of_unplanned hs
  refine ⟨?_, ?_, ?_⟩
  · simp [server, hgreet]
  · simpa [server, hgreet] using hs
  · intro st
    simp only [server, respond]
    cases htake : take (Text.collapse st.text) s.planned with
    | none => exact hs
    | some x =>
      obtain ⟨p, rest⟩ := x
      exact fun q hq => hs q (mem_of_take htake hq)

end Sql.Scripted

/-- A poll of one event, whose update is planned to change no row. -/
theorem poll_statements_unchanged :
    let row : Sql.Row := [.uuid ⟨1⟩, .octets [], .octets organizationCreated.toUTF8.toList,
      .octets (("\x7b\"organization_id\":" ++
        "\"018f2b1c-7a6d-7c3e-9d2a-0d9b8c7a6e5f\"\x7d").toUTF8).toList,
      .truth false, .null, .number 0]
    let s : Session Sql.Scripted := ⟨⟨[⟨"FROM outbox_events", some (.rows [row])⟩,
      ⟨"UPDATE", some (.affected 0)⟩], []⟩, false, true, none, [], false⟩
    let config := ConsumerConfig.standard
    let told := Sql.Scripted.server.recording.backend.poll config (fun _ => default) s.recorded
    ∃ reply rest,
      told.state.sent = ⟨.pending config.eventType config.batchSize, reply⟩ :: rest ∧
      match reply.rows? >>= fun rows => rows.mapM Sql.Row.event with
      | .error _ => rest = [] ∧ told.result.isOk = false
      | .ok events => ∃ outcomes brackets, told.result = .ok ⟨outcomes⟩ ∧
          rest = List.flatten brackets ∧ InOrder (fun _ => default) 0 events outcomes brackets := by
  intro row s config told
  have haccepts : Sql.Scripted.server.Accepts s.server := Sql.Scripted.accepts (by decide)
  exact (poll_statements Sql.Scripted.server rfl haccepts config fun _ => default).2

end OutboxProvisioning
