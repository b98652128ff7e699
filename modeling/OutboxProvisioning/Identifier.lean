import OutboxProvisioning.Uuid.Reader

/-!
# Identifiers of the domain

Events, organizations and billing workspaces each have identifiers of their own type.
-/

namespace OutboxProvisioning

/-- Names an event of the outbox. -/
structure EventId where
  uuid : Uuid
deriving DecidableEq, Inhabited, Repr

/-- Names an organization. -/
structure OrganizationId where
  uuid : Uuid
deriving DecidableEq, Inhabited, Repr

/-- Names a billing workspace. -/
structure WorkspaceId where
  uuid : Uuid
deriving DecidableEq, Inhabited, Repr

instance : ToString EventId := ⟨fun i => i.uuid.toString⟩
instance : ToString OrganizationId := ⟨fun i => i.uuid.toString⟩
instance : ToString WorkspaceId := ⟨fun i => i.uuid.toString⟩

namespace OrganizationId

/-- The organization that a text names, in any of the spellings of its identifier. -/
def ofString (s : String) : Except Uuid.Flaw OrganizationId :=
  (Uuid.ofString s).map OrganizationId.mk

end OrganizationId

end OutboxProvisioning
