import OutboxProvisioning.Wire
import OutboxProvisioning.ProvisioningError
import OutboxProvisioning.Text.Blank

/-!
# Payloads of created organizations

The payload of an event names the organization and carries context that passes through
untouched. On the wire every field may be absent or `null`; only the organization has to be
there.

* `Payload.decode`: the payload of an event's octets.
* `Payload.organization`: the organization it names.
* `Payload.reader`, `Payload.write`: the strict form, with six strings.
-/

namespace OutboxProvisioning

/-- The payload of an event about a created organization. -/
structure Payload where
  organizationId : String
  ownerId : String
  countryCode : String
  timezone : String
  defaultCurrency : String
  createdAt : String
deriving DecidableEq, Inhabited, Repr

/-- The six fields while they are read: not seen, or seen with a value. -/
structure Payload.Draft (α : Type) where
  organizationId : Option α
  ownerId : Option α
  countryCode : Option α
  timezone : Option α
  defaultCurrency : Option α
  createdAt : Option α

namespace Payload

open Json (Member Schema Reader required)

/-- No field seen. -/
def Draft.none : Draft α := ⟨.none, .none, .none, .none, .none, .none⟩

/-- The six members, with values read by `p`. -/
def members (p : Reader α) (optional : Bool) : List (Member (Draft α)) :=
  [⟨"organization_id", fun d => d.organizationId.isSome,
      fun d => p.map fun a => { d with organizationId := some a }, optional⟩,
    ⟨"owner_id", fun d => d.ownerId.isSome,
      fun d => p.map fun a => { d with ownerId := some a }, optional⟩,
    ⟨"country_code", fun d => d.countryCode.isSome,
      fun d => p.map fun a => { d with countryCode := some a }, optional⟩,
    ⟨"timezone", fun d => d.timezone.isSome,
      fun d => p.map fun a => { d with timezone := some a }, optional⟩,
    ⟨"default_currency", fun d => d.defaultCurrency.isSome,
      fun d => p.map fun a => { d with defaultCurrency := some a }, optional⟩,
    ⟨"created_at", fun d => d.createdAt.isSome,
      fun d => p.map fun a => { d with createdAt := some a }, optional⟩]

/-- Texts that may be absent or `null`. -/
abbrev Raw := Draft (Option String)

/-- The wire form: six texts, each of which may be absent or `null`. -/
def wire : Schema Raw Raw := ⟨"struct RawPayload", members Reader.text.orNull true, .none, .ok⟩

/-- A text that was given, or nothing. -/
def orEmpty (field : Option (Option String)) : String := field.join.getD ""

/-- The payload of the wire form. The organization must not be blank. -/
def ofRaw (raw : Raw) : Except ProvisioningError Payload :=
  let organization := Text.trim (orEmpty raw.organizationId)
  if organization.isEmpty then .error (.emptyField "organization_id")
  else .ok {
    organizationId := organization
    ownerId := orEmpty raw.ownerId
    countryCode := orEmpty raw.countryCode
    timezone := orEmpty raw.timezone
    defaultCurrency := orEmpty raw.defaultCurrency
    createdAt := orEmpty raw.createdAt }

/-- The payload that octets hold. -/
def decode (bytes : Bytes) : Except ProvisioningError Payload :=
  match wire.reader.parse bytes with
  | .error reason => .error (.decode reason)
  | .ok raw => ofRaw raw

/-- The organization that a payload names. -/
def organization (p : Payload) : Except ProvisioningError OrganizationId :=
  match OrganizationId.ofString p.organizationId with
  | .ok o => .ok o
  | .error flaw => .error (.identifierFormat p.organizationId flaw.message)

/-- Six texts, all of which have to be there. -/
def ofDraft (d : Draft String) : Except String Payload := do
  let organizationId ← required "organization_id" d.organizationId
  let ownerId ← required "owner_id" d.ownerId
  let countryCode ← required "country_code" d.countryCode
  let timezone ← required "timezone" d.timezone
  let defaultCurrency ← required "default_currency" d.defaultCurrency
  let createdAt ← required "created_at" d.createdAt
  return { organizationId, ownerId, countryCode, timezone, defaultCurrency, createdAt }

/-- The strict reader: six strings. -/
def schema : Schema (Draft String) Payload :=
  ⟨"struct OrganizationCreatedPayload", members Reader.text false, .none, ofDraft⟩

/-- The strict reader: six strings. -/
def reader : Reader Payload := schema.reader

/-- A payload as an object of six strings. -/
def write (p : Payload) : List Char :=
  Json.writeObject [("organization_id", Json.writeText p.organizationId),
    ("owner_id", Json.writeText p.ownerId), ("country_code", Json.writeText p.countryCode),
    ("timezone", Json.writeText p.timezone),
    ("default_currency", Json.writeText p.defaultCurrency),
    ("created_at", Json.writeText p.createdAt)]

end Payload

end OutboxProvisioning
