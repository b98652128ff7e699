import OutboxProvisioning.Sql.Session
import OutboxProvisioning.Text.Collapse

/-!
# Databases that reply by a script

Such a database holds nothing. It has a list of planned replies, each for the first statement
whose text has certain words in it, or for the next connection; every other statement gets a usual
reply, and every other connection is made. It records what it is sent.

* `Scripted.server`: the database.
* `Scripted.connect`: a session with it.
-/

namespace OutboxProvisioning.Sql

/-- A reply for the first statement that has certain words in it. -/
structure Planned where
  words : String
  /-- Without a reply, the usual one. -/
  reply : Option Reply

/-- The replies to come and the statements so far, the last first. -/
structure Scripted where
  planned : List Planned
  sent : List Statement

namespace Scripted

/-- The usual reply: no workspace, one row changed, or no rows. -/
def usual : Statement → Reply
  | .workspaceExists _ => .rows [[.truth false]]
  | .insertWorkspace _ | .publishEvent _ _ | .record _ | .recordDuration _ _ => .affected 1
  | .databaseName => .rows [[.octets (Utf8.encode "db")]]
  | _ => .rows []

/-- Takes the first planned reply for a text out of a list. -/
def take (text : String) : List Planned → Option (Planned × List Planned)
  | [] => none
  | p :: ps =>
    if Text.contains text p.words then some (p, ps)
    else (take text ps).map fun (q, qs) => (q, p :: qs)

/-- Replies to a statement and records it. -/
def respond (st : Statement) (s : Scripted) : Reply × Scripted :=
  let sent := st :: s.sent
  match take (Text.collapse st.text) s.planned with
  | none => (usual st, ⟨s.planned, sent⟩)
  | some (p, rest) => (p.reply.getD (usual st), ⟨rest, sent⟩)

/-- The words by which a reply is planned for a connection. -/
def startup : String := "@startup"

/-- Whether a connection is worth another try: the database has too many, or is not ready. -/
def isPassing (r : Refusal) : Bool := r.code = "53300" || r.code = "57P03"

/-- Whether a connection is refused, and the replies that are left. It is tried again as long as
that is worth it. -/
def greet : List Planned → Except Error Unit × List Planned
  | [] => (.ok (), [])
  | p :: ps =>
    if p.words = startup then
      match p.reply with
      | some (.refused r) => if isPassing r then greet ps else (.error (.refused r), ps)
      | _ => (.ok (), ps)
    else ((greet ps).1, p :: (greet ps).2)

/-- The database. -/
def server : Server Scripted where
  respond := respond
  connect s := ((greet s.planned).1, ⟨(greet s.planned).2, s.sent⟩)

/-- A session with a database that has certain replies planned, unless the first connection is
refused. -/
def connect (planned : List Planned) : Except Error (Session Scripted) :=
  match server.dial (.start ⟨planned, []⟩) with
  | (.error e, _) => .error e
  | (.ok (), s) => .ok s

end Scripted

end OutboxProvisioning.Sql
