import OutboxProvisioning.DomainError

/-!
# Errors of provisioning

What can go wrong between fetching events and committing their effects. Errors that lie in
the event itself cannot be mended by another attempt; all others may pass.

* `ProvisioningError.message`: the words for an error.
* `ProvisioningError.isRetryable`: whether another attempt may succeed.
-/

namespace OutboxProvisioning

/-- Why an event was not provisioned, or none could be fetched. -/
inductive ProvisioningError
  /-- The pending events could not be fetched. -/
  | fetch (reason : String)
  /-- The payload is not a JSON object of the right shape. -/
  | decode (reason : String)
  /-- A field that must be given is missing or blank. -/
  | emptyField (field : String)
  /-- The subject is no identifier. -/
  | identifierFormat (value reason : String)
  /-- Looking for the workspace or creating it failed. -/
  | resourceCreation (reason : String)
  /-- Flagging the event as published failed. -/
  | markPublished (reason : String)
  /-- Opening or committing the transaction failed. -/
  | transaction (reason : String)
deriving DecidableEq, Repr

namespace ProvisioningError

/-- The code under which an error is logged. -/
def code : ProvisioningError → ErrorCode
  | .fetch _ => .databaseError
  | .decode _ => .payloadDecodeFailed
  | .emptyField _ => .validationFailed
  | .identifierFormat _ _ => .invalidIdentifier
  | .resourceCreation _ => .databaseError
  | .markPublished _ => .databaseError
  | .transaction _ => .databaseError

/-- The words for an error. -/
def message : ProvisioningError → String
  | .fetch reason => "Failed to fetch pending events: " ++ reason
  | .decode reason => "Failed to decode payload: " ++ reason
  | .emptyField field => "Invalid payload: Field '" ++ field ++ "' cannot be empty"
  | .identifierFormat value reason => "Invalid subject identifier '" ++ value ++ "': " ++ reason
  | .resourceCreation reason => "Failed to provision billing workspace: " ++ reason
  | .markPublished reason => "Failed to mark event published: " ++ reason
  | .transaction reason => "Transaction failed: " ++ reason

/-- Whether a later attempt can succeed without a change of the event. -/
def isRetryable : ProvisioningError → Bool
  | .decode _ | .emptyField _ | .identifierFormat _ _ => false
  | .fetch _ | .resourceCreation _ | .markPublished _ | .transaction _ => true

end ProvisioningError

end OutboxProvisioning
