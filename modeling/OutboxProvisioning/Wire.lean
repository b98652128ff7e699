import OutboxProvisioning.Identifier
import OutboxProvisioning.Instant.Reader
import OutboxProvisioning.Instant.Printer
import OutboxProvisioning.Json.Record
import OutboxProvisioning.Json.Printer

/-!
# Identifiers and instants in JSON

Both are strings: an identifier in any of its spellings, written hyphenated; an instant as a
date and time with an offset, written in UTC.
-/

namespace OutboxProvisioning

open Json (Reader)

namespace Uuid

/-- An identifier that a text spells, or the reason why it does not. -/
def parse (s : String) : Except String Uuid :=
  (ofString s).mapError fun f => "UUID parsing failed: " ++ f.message

/-- The reader of identifiers. -/
def reader : Reader Uuid := .parsed "a formatted UUID string" parse

/-- An identifier as a string. -/
def write (u : Uuid) : List Char := Json.writeText u.toString

end Uuid

namespace Instant

/-- An instant that a text spells, or the reason why it does not. -/
def parse (s : String) : Except String Instant := (ofString s).mapError Flaw.message

/-- The reader of instants. -/
def reader : Reader Instant := .parsed "an RFC 3339 formatted date and time string" parse

/-- An instant as a string. -/
def write (t : Instant) : List Char := Json.writeText t.toString

end Instant

/-- The reader of names of events. -/
def EventId.reader : Reader EventId := Uuid.reader.map EventId.mk

/-- The reader of names of organizations. -/
def OrganizationId.reader : Reader OrganizationId := Uuid.reader.map OrganizationId.mk

/-- The reader of names of workspaces. -/
def WorkspaceId.reader : Reader WorkspaceId := Uuid.reader.map WorkspaceId.mk

/-- A field that has to be there. -/
def Json.required (name : String) : Option α → Except String α
  | some a => .ok a
  | none => .error name

end OutboxProvisioning
