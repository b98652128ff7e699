/-!
# Errors of stores

An error has a code, a message and named details. Details are kept under their names: the
last value given to a name counts, and the text lists them in the order of the names' octets.

* `DomainError.withDetail`: adds a detail.
* `DomainError.text`: the full text.
-/

namespace OutboxProvisioning

/-- The kinds of errors. -/
inductive ErrorCode
  | validationFailed
  | payloadDecodeFailed
  | invalidIdentifier
  | eventNotFound
  | eventAlreadyPublished
  | workspaceExists
  | databaseError
deriving DecidableEq, Repr

/-- The name of a kind in texts and logs. -/
def ErrorCode.name : ErrorCode → String
  | .validationFailed => "VALIDATION_FAILED"
  | .payloadDecodeFailed => "PAYLOAD_DECODE_FAILED"
  | .invalidIdentifier => "INVALID_IDENTIFIER"
  | .eventNotFound => "EVENT_NOT_FOUND"
  | .eventAlreadyPublished => "EVENT_ALREADY_PUBLISHED"
  | .workspaceExists => "WORKSPACE_EXISTS"
  | .databaseError => "DATABASE_ERROR"

/-- An error of a store. The details are kept in increasing order of their names. -/
structure DomainError where
  code : ErrorCode
  message : String
  details : List (String × String)
deriving DecidableEq, Repr

/-- Puts a value under a name, in the place where increasing names have it. -/
def putDetail (name value : String) : List (String × String) → List (String × String)
  | [] => [(name, value)]
  | (k, v) :: rest =>
    if name = k then (name, value) :: rest
    else if name < k then (name, value) :: (k, v) :: rest
    else (k, v) :: putDetail name value rest

namespace DomainError

/-- An error without details. -/
def plain (code : ErrorCode) (message : String) : DomainError := ⟨code, message, []⟩

/-- An error of the database. -/
def database (message : String) : DomainError := plain .databaseError message

/-- Adds a detail; it replaces one of the same name. -/
def withDetail (e : DomainError) (name value : String) : DomainError :=
  { e with details := putDetail name value e.details }

/-- The details as they stand in parentheses. -/
def detailsText (details : List (String × String)) : String :=
  ", ".intercalate (details.map fun d => d.1 ++ "=" ++ d.2)

/-- The code, the message, and the details if there are any. -/
def text (e : DomainError) : String :=
  "[" ++ e.code.name ++ "] " ++ e.message ++
    if e.details.isEmpty then "" else " (" ++ detailsText e.details ++ ")"

end DomainError

end OutboxProvisioning
