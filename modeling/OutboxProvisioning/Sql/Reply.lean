import OutboxProvisioning.Event
import OutboxProvisioning.Text.Quoted

/-!
# Replies of a database

A reply is a list of rows, the number of rows that were changed, or a refusal. What a row is
expected to hold may not be there.

* `Reply.rows`, `Reply.affected`, `Reply.first`: what a reply says, or why it does not.
* `Row.event`: the event in a row.
-/

namespace OutboxProvisioning.Sql

/-- One value of a row. -/
inductive Cell
  | null
  | uuid (u : Uuid)
  | octets (b : Bytes)
  | truth (b : Bool)
  | number (i : Int)

/-- The values of a row in the order of their columns. -/
abbrev Row := List Cell

/-- Why a database refuses a statement or a connection. -/
structure Refusal where
  code : String
  message : String
  /-- The constraint that was violated. -/
  constraint : Option String
deriving DecidableEq, Repr

/-- What a database replies. -/
inductive Reply
  | rows (rs : List Row)
  | affected (n : Nat)
  | refused (r : Refusal)

/-- A column, by name or by number. -/
inductive Column
  | named (name : String)
  | numbered (n : Nat)
deriving DecidableEq, Repr

/-- The words for a column. -/
def Column.label : Column → String
  | .named name => Text.quoted name
  | .numbered n => toString n

/-- What goes wrong with a database. -/
inductive Error
  | refused (r : Refusal)
  /-- A column holds something else than it should. -/
  | column (c : Column) (reason : String)
  | noRow
  /-- A time in a row cannot be represented. Nobody expects that: it ends the program. -/
  | unrepresentable
  /-- There was no connection to be had in time. -/
  | noConnection
  /-- The address of the database does not tell how to connect. -/
  | address (reason : String)
  /-- There is no way to the database. -/
  | unreachable (reason : String)
deriving DecidableEq, Repr

/-- The words for an error. -/
def Error.message : Error → String
  | .refused r => "error returned from database: " ++ r.message
  | .column c reason => "error occurred while decoding column " ++ c.label ++ ": " ++ reason
  | .noRow => "no rows returned by a query that expected to return at least one row"
  | .unrepresentable => "time out of range"
  | .noConnection => "pool timed out while waiting for an open connection"
  | .address reason => "error with configuration: " ++ reason
  | .unreachable reason => "error communicating with database: " ++ reason

namespace Reply

/-- The rows of a reply. -/
def rows? : Reply → Except Error (List Row)
  | .rows rs => .ok rs
  | .affected _ => .ok []
  | .refused r => .error (.refused r)

/-- How many rows were changed. -/
def affected? : Reply → Except Error Nat
  | .rows rs => .ok rs.length
  | .affected n => .ok n
  | .refused r => .error (.refused r)

/-- The first row, which has to be there. -/
def first? (r : Reply) : Except Error Row :=
  match r.rows? with
  | .error e => .error e
  | .ok [] => .error .noRow
  | .ok (row :: _) => .ok row

end Reply

namespace Cell

/-- What is wrong when nothing stands where something has to be. -/
def unexpectedNull : String := "unexpected null; try decoding as an `Option`"

/-- What is wrong when something else stands there. -/
def mismatched : String := "mismatched types"

/-- An identifier. -/
def uuid? : Cell → Except String Uuid
  | .uuid u => .ok u
  | .null => .error unexpectedNull
  | _ => .error mismatched

/-- A text, which has to be UTF-8. -/
def text? : Cell → Except String String
  | .octets b => (Utf8.decode b).mapError Utf8.Break.message
  | .null => .error unexpectedNull
  | _ => .error mismatched

/-- A truth value. -/
def truth? : Cell → Except String Bool
  | .truth b => .ok b
  | .null => .error unexpectedNull
  | _ => .error mismatched

/-- A whole number. -/
def number? : Cell → Except String Int
  | .number i => .ok i
  | .null => .error unexpectedNull
  | _ => .error mismatched

/-- Octets as they are. -/
def octets? : Cell → Except String Bytes
  | .octets b => .ok b
  | .null => .error unexpectedNull
  | _ => .error mismatched

end Cell

namespace Row

/-- Reads a column of a row, which is the `n`-th. -/
def get (row : Row) (n : Nat) (c : Column) (read : Cell → Except String α) : Except Error α :=
  (read (row.getD n .null)).mapError (.column c)

/-- Reads a time, which is a number of microseconds. -/
def time (row : Row) (n : Nat) (c : Column) : Except Error Instant :=
  match row.get n c Cell.number? with
  | .error e => .error e
  | .ok i =>
    match Instant.ofMicroseconds? i with
    | some t => .ok t
    | none => .error .unrepresentable

/-- Reads a time that may be missing. -/
def time? (row : Row) (n : Nat) (c : Column) : Except Error (Option Instant) :=
  match row.getD n .null with
  | .null => .ok none
  | _ => (row.time n c).map some

/-- The event in a row. -/
def event (row : Row) : Except Error Event := do
  let id ← row.get 0 (.named "id") Cell.uuid?
  let aggregateId ← row.get 1 (.named "aggregate_id") Cell.text?
  let eventType ← row.get 2 (.named "event_type") Cell.text?
  let payload ← row.get 3 (.named "payload") Cell.text?
  let published ← row.get 4 (.named "published") Cell.truth?
  let publishedAt ← row.time? 5 (.named "published_at")
  let createdAt ← row.time 6 (.named "created_at")
  return {
    id := ⟨id⟩, aggregateId, eventType, payload := Utf8.encode payload, published, publishedAt,
    createdAt }

end Row

end OutboxProvisioning.Sql
