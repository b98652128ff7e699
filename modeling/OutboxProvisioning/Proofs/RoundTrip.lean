import OutboxProvisioning.Event
import OutboxProvisioning.Payload
import OutboxProvisioning.Proofs.Instant
import OutboxProvisioning.Proofs.Json.Printer
import OutboxProvisioning.Proofs.Uuid
import OutboxProvisioning.Workspace

/-!
# What is written of the domain is read back

Events, workspaces and payloads are written as objects of strings, numbers and truth values, each
of which its reader takes back. Only an instant in a leap second amid a minute is not taken back,
since its text is that of the second that follows.

* `Reader.Recovers`, `Schema.Recovers`: what is written of a value, and of the members of an object.
* `event_recovered`, `workspace_recovered`, `payload_recovered`: the three types.
* `domain_recovered`: **the text of a value stands for that value alone**, if its times are regular.
-/

namespace OutboxProvisioning

open Utf8 (encodeChars)

namespace Json

variable {α β σ : Type} {a : α} {acc : σ} {cs : List Char} {members : List (String × List Char)}
  {p : Reader α} {schema : Schema σ α}

/-- The characters are a value of the grammar, which is read as `a`. -/
structure Reader.Recovers (p : Reader α) (cs : List Char) (a : α) : Prop where
  value : IsValue (encodeChars cs)
  takes : p.Takes (encodeChars cs) a

namespace Reader.Recovers

theorem map (h : p.Recovers cs a) (f : α → β) : (p.map f).Recovers cs (f a) :=
  ⟨h.value, h.takes.map f⟩

theorem parse (h : p.Recovers cs a) : p.parse (encodeChars cs) = .ok a :=
  h.takes.parse (isText_bare _)

end Reader.Recovers

/-- Values that are written alike are read alike. -/
theorem eq_of_recovers {f : β → α} {write : β → List Char}
    (h : ∀ b, p.Recovers (write b) (f b)) {b c : β} (hbc : write b = write c) : f b = f c := by
  have hb := (h b).parse
  rw [hbc, (h c).parse] at hb
  exact (Except.ok.inj hb).symm

/-- The members are read one after the other, from what has been read before to what has been read
in the end. -/
inductive Schema.Recovers (schema : Schema σ α) : σ → List (String × List Char) → σ → Prop
  | done {acc : σ} : Schema.Recovers schema acc [] acc
  | member {acc acc₁ acc' : σ} {k : String} {cs : List Char} {m : Member σ}
      {members : List (String × List Char)} : schema.member? k = some m → m.given acc = false →
      (m.read acc).Recovers cs acc₁ → Schema.Recovers schema acc₁ members acc' →
      Schema.Recovers schema acc ((k, cs) :: members) acc'

namespace Schema.Recovers

theorem values {acc' : σ} (h : schema.Recovers acc members acc') :
    ∀ m ∈ members, IsValue (encodeChars m.2) := by
  induction h with
  | done => exact fun m hm => absurd hm List.not_mem_nil
  | member _ _ hcs _ ih => exact List.forall_mem_cons.mpr ⟨hcs.value, ih⟩

theorem reads {acc' : σ} (h : schema.Recovers acc members acc') :
    schema.Reads acc (members.map fun m => (m.1, encodeChars m.2)) acc' := by
  induction h with
  | done => exact .done
  | member hm hg hcs _ ih => exact .read hm hg hcs.takes ih

/-- **An object is read back** if its members are. -/
theorem object (h : schema.Recovers schema.start members acc) (ha : schema.finish acc = .ok a) :
    schema.reader.Recovers (writeObject members) a :=
  ⟨value_object h.values, reader_takes (isObject_written h.values) h.reads ha⟩

end Schema.Recovers

/-! ## Parts -/

theorem text_recovered (t : String) : Reader.text.Recovers (writeText t) t :=
  ⟨value_text t, text_written t⟩

theorem boolean_recovered (b : Bool) : Reader.boolean.Recovers (writeBoolean b) b :=
  ⟨value_boolean b, boolean_written b⟩

/-- Octets are read back as their numbers. -/
theorem octets_recovered (octets : Bytes) : (Reader.unsigned 8).list.Recovers
    (writeList (octets.map fun b => writeNat b.toNat)) (octets.map UInt8.toNat) where
  value := value_list fun v hv => by
    obtain ⟨b, -, rfl⟩ := List.mem_map.mp hv
    exact value_nat b.toNat
  takes := list_written octets (fun b => value_nat b.toNat)
    fun b => nat_takes (by decide) b.toNat_lt

end Json

open Json (text_recovered boolean_recovered octets_recovered)

theorem uuid_recovered (u : Uuid) : Uuid.reader.Recovers u.write u where
  value := Json.value_text u.toString
  takes := Json.parsed_written (by rw [Uuid.parse, Uuid.ofString_toString]; rfl)

theorem instant_recovered (t : Instant) : Instant.reader.Recovers t.write t.spelled where
  value := Json.value_text t.toString
  takes := Json.parsed_written (by rw [Instant.parse, Instant.ofString_toString]; rfl)

theorem instant_option_recovered (o : Option Instant) :
    Instant.reader.orNull.Recovers (Json.writeOption Instant.write o) (o.map Instant.spelled) where
  value := Json.value_option (fun t => (instant_recovered t).value) o
  takes := by
    refine Json.option_written (fun t => ?_) (fun t => (instant_recovered t).takes) o
    rw [Instant.write, Json.text_octets]
    exact ⟨_, _, rfl, by decide, by decide⟩

/-! ## The three types -/

/-- The event that the text of an event spells. -/
def Event.spelled (e : Event) : Event :=
  { e with publishedAt := e.publishedAt.map Instant.spelled, createdAt := e.createdAt.spelled }

/-- An event is regular if its times are. -/
def Event.Regular (e : Event) : Prop := (∀ t ∈ e.publishedAt, t.Regular) ∧ e.createdAt.Regular

/-- The workspace that the text of a workspace spells. -/
def Workspace.spelled (w : Workspace) : Workspace := { w with createdAt := w.createdAt.spelled }

/-- A workspace is regular if its time is. -/
def Workspace.Regular (w : Workspace) : Prop := w.createdAt.Regular

theorem Event.spelled_eq_iff {e : Event} : e.spelled = e ↔ e.Regular := by
  have hpublished : e.publishedAt.map Instant.spelled = e.publishedAt ↔
      ∀ t ∈ e.publishedAt, t.Regular := by
    cases e.publishedAt <;> simp [Instant.spelled_eq_iff]
  rw [Event.Regular, ← hpublished, ← Instant.spelled_eq_iff]
  cases e
  simp [Event.spelled]

theorem Workspace.spelled_eq_iff {w : Workspace} : w.spelled = w ↔ w.Regular := by
  rw [Workspace.Regular, ← Instant.spelled_eq_iff]
  cases w
  simp [Workspace.spelled]

theorem event_recovered (e : Event) : Event.reader.Recovers e.write e.spelled := by
  have hoctets : (e.payload.map UInt8.toNat).map UInt8.ofNat = e.payload := by
    rw [List.map_map]
    exact List.map_id'' (fun b => UInt8.ofNat_toNat) e.payload
  have hdraft : Event.ofDraft ⟨some e.id, some e.aggregateId, some e.eventType,
      some (e.payload.map UInt8.toNat), some e.published, some (e.publishedAt.map Instant.spelled),
      some e.createdAt.spelled⟩ =
        .ok { e.spelled with payload := (e.payload.map UInt8.toNat).map UInt8.ofNat } := rfl
  rw [hoctets] at hdraft
  exact Json.Schema.Recovers.object
    (.member rfl rfl (((uuid_recovered e.id.uuid).map EventId.mk).map _) <|
      .member rfl rfl ((text_recovered e.aggregateId).map _) <|
      .member rfl rfl ((text_recovered e.eventType).map _) <|
      .member rfl rfl ((octets_recovered e.payload).map _) <|
      .member rfl rfl ((boolean_recovered e.published).map _) <|
      .member rfl rfl ((instant_option_recovered e.publishedAt).map _) <|
      .member rfl rfl ((instant_recovered e.createdAt).map _) .done) hdraft

theorem workspace_recovered (w : Workspace) : Workspace.reader.Recovers w.write w.spelled :=
  Json.Schema.Recovers.object
    (.member rfl rfl (((uuid_recovered w.id.uuid).map WorkspaceId.mk).map _) <|
      .member rfl rfl (((uuid_recovered w.organizationId.uuid).map OrganizationId.mk).map _) <|
      .member rfl rfl ((instant_recovered w.createdAt).map _) .done) rfl

theorem payload_recovered (p : Payload) : Payload.reader.Recovers p.write p :=
  Json.Schema.Recovers.object
    (.member rfl rfl ((text_recovered p.organizationId).map _) <|
      .member rfl rfl ((text_recovered p.ownerId).map _) <|
      .member rfl rfl ((text_recovered p.countryCode).map _) <|
      .member rfl rfl ((text_recovered p.timezone).map _) <|
      .member rfl rfl ((text_recovered p.defaultCurrency).map _) <|
      .member rfl rfl ((text_recovered p.createdAt).map _) .done) rfl

/-- **The text of a value stands for that value alone**, if its times are regular. Every event,
workspace and payload has a text that is read, and exactly the regular ones are read back from it;
no two of these are written alike. -/
theorem domain_recovered :
    ((∀ e : Event, Event.reader.parse (encodeChars e.write) = .ok e.spelled ∧
        (e.spelled = e ↔ e.Regular)) ∧
      ∀ e e' : Event, e.Regular → e'.Regular → e.write = e'.write → e = e') ∧
    ((∀ w : Workspace, Workspace.reader.parse (encodeChars w.write) = .ok w.spelled ∧
        (w.spelled = w ↔ w.Regular)) ∧
      ∀ w w' : Workspace, w.Regular → w'.Regular → w.write = w'.write → w = w') ∧
    (∀ p : Payload, Payload.reader.parse (encodeChars p.write) = .ok p) ∧
      ∀ p p' : Payload, p.write = p'.write → p = p' := by
  refine ⟨⟨fun e => ⟨(event_recovered e).parse, Event.spelled_eq_iff⟩, ?_⟩,
    ⟨fun w => ⟨(workspace_recovered w).parse, Workspace.spelled_eq_iff⟩, ?_⟩,
    fun p => (payload_recovered p).parse, fun p p' => Json.eq_of_recovers payload_recovered⟩
  · intro e e' he he' hwrite
    have halike := Json.eq_of_recovers event_recovered hwrite
    rwa [Event.spelled_eq_iff.mpr he, Event.spelled_eq_iff.mpr he'] at halike
  · intro w w' hw hw' hwrite
    have halike := Json.eq_of_recovers workspace_recovered hwrite
    rwa [Workspace.spelled_eq_iff.mpr hw, Workspace.spelled_eq_iff.mpr hw'] at halike

/-- An event is written like the one that it spells. -/
theorem Event.write_spelled (e : Event) : e.spelled.write = e.write := by
  have hpublished : Json.writeOption Instant.write (e.publishedAt.map Instant.spelled) =
      Json.writeOption Instant.write e.publishedAt := by
    cases e.publishedAt with
    | none => rfl
    | some t => simp [Json.writeOption, Instant.write, Instant.toString_spelled]
  simp only [Event.write, Event.spelled, hpublished, Instant.write, Instant.toString_spelled]

/-- A leap second amid a minute: two events have one text, which is read as the other one. -/
theorem leap_amid_minute :
    let leap : Instant := ⟨19844, 43230, 1500000000, by decide, by decide, by decide, by decide⟩
    let plain : Instant := ⟨19844, 43231, 500000000, by decide, by decide, by decide, by decide⟩
    let e : Event := { (default : Event) with createdAt := leap }
    let e' : Event := { (default : Event) with createdAt := plain }
    e ≠ e' ∧ e.write = e'.write ∧ Event.reader.parse (encodeChars e.write) = .ok e' := by
  intro leap plain e e'
  have hspelled : e.spelled = e' := by decide
  exact ⟨by decide, hspelled ▸ e.write_spelled.symm, hspelled ▸ (event_recovered e).parse⟩

end OutboxProvisioning
