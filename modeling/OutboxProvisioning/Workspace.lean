import OutboxProvisioning.Wire

/-!
# Billing workspaces

What an organization is given when its event is provisioned, with the time of that.
-/

namespace OutboxProvisioning

/-- The billing workspace of an organization. -/
structure Workspace where
  id : WorkspaceId
  organizationId : OrganizationId
  createdAt : Instant
deriving DecidableEq, Inhabited

namespace Workspace

/-- A workspace while it is read. -/
structure Draft where
  id : Option WorkspaceId
  organizationId : Option OrganizationId
  createdAt : Option Instant

open Json (Member Schema Reader required)

/-- The three members of a workspace. -/
def members : List (Member Draft) :=
  [⟨"id", fun d => d.id.isSome,
      fun d => WorkspaceId.reader.map fun a => { d with id := some a }, false⟩,
    ⟨"organization_id", fun d => d.organizationId.isSome,
      fun d => OrganizationId.reader.map fun a => { d with organizationId := some a }, false⟩,
    ⟨"created_at", fun d => d.createdAt.isSome,
      fun d => Instant.reader.map fun a => { d with createdAt := some a }, false⟩]

/-- All three have to be there. -/
def ofDraft (d : Draft) : Except String Workspace := do
  let id ← required "id" d.id
  let organizationId ← required "organization_id" d.organizationId
  let createdAt ← required "created_at" d.createdAt
  return { id, organizationId, createdAt }

/-- How a workspace is read. -/
def schema : Schema Draft Workspace :=
  ⟨"struct BillingWorkspace", members, ⟨none, none, none⟩, ofDraft⟩

/-- The reader of workspaces. -/
def reader : Reader Workspace := schema.reader

/-- A workspace as an object. -/
def write (w : Workspace) : List Char :=
  Json.writeObject [("id", w.id.uuid.write), ("organization_id", w.organizationId.uuid.write),
    ("created_at", w.createdAt.write)]

end Workspace

end OutboxProvisioning
