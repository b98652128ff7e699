import OutboxProvisioning.Json.Printer
import OutboxProvisioning.Log

/-!
# Log lines

* `Entry.write`: an entry as a JSON object.
* `Entry.line`: an entry for people to read.
-/

namespace OutboxProvisioning.Log

/-- The value of a field: numbers stand as such. -/
def Field.write : Field → List Char
  | .text s => Json.writeText s
  | .number n => Json.writeNat n

/-- An entry as a JSON object. The message is one of its fields. -/
def Entry.write (e : Entry) : List Char :=
  Json.writeObject [("level", Json.writeText e.level.name),
    ("fields", Json.writeObject (("message", Json.writeText e.message) ::
      e.fields.map fun f => (f.1, f.2.write))),
    ("target", Json.writeText e.origin.target)]

/-- An entry for people to read. -/
def Entry.line (e : Entry) : String :=
  e.level.name ++ " " ++ e.origin.target ++ ": " ++ e.message ++
    String.join (e.fields.map fun f => " " ++ f.1 ++ "=" ++ f.2.toText)

end OutboxProvisioning.Log
