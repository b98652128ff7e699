import OutboxProvisioning.Proofs.Payload
import OutboxProvisioning.Proofs.RoundTrip

/-!
# Two readers of payloads

A payload that is written with all its six strings can be read strictly, as six strings. The wire
form is more lenient. What the strict reader reads, the lenient one reads as the same strings.

* `lenient_reads`, `lenient_inOrder`: member by member, in an object and in an array.
* `decode_of_strict`: **what is read strictly is decoded to the same payload**, with the
  organization trimmed.
-/

namespace OutboxProvisioning.Payload

open Json (Held Holds InOrder IsObject IsText IsValue Reader Slot)

variable {α β : Type} {d d' : Draft String} {members : List (String × Bytes)} {p : Payload}
  {s : Bytes} {values : List Bytes}

/-- The fields of a draft, changed. -/
def Draft.map (f : α → β) (d : Draft α) : Draft β :=
  ⟨d.organizationId.map f, d.ownerId.map f, d.countryCode.map f, d.timezone.map f,
    d.defaultCurrency.map f, d.createdAt.map f⟩

/-- All six fields of a payload. -/
def full (p : Payload) : Draft String :=
  ⟨some p.organizationId, some p.ownerId, some p.countryCode, some p.timezone,
    some p.defaultCurrency, some p.createdAt⟩

theorem Draft.get_map (f : α → β) (d : Draft α) (i : Field) : (d.map f).get i = (d.get i).map f := by
  cases i <;> rfl

/-- A string is kept by the lenient reader where the strict one keeps it. -/
theorem slot_put_map (f : Field) (d : Draft String) (t : String) :
    (slot Reader.text.orNull true f).put (d.map some) (some t) =
      ((slot Reader.text false f).put d t).map some := by
  cases f <;> rfl

theorem strict_table : schema.Table (Field.all.map (slot Reader.text false)) :=
  table "struct OrganizationCreatedPayload" Reader.text false ofDraft

/-- The strict reader is satisfied with nothing less than all six fields. -/
theorem eq_full_of_draft (h : ofDraft d = .ok p) : d = full p := by
  obtain ⟨_ | a, _ | b, _ | c, _ | e, _ | f, _ | g⟩ := d <;> cases h
  rfl

/-- A name is known to both readers or to neither. -/
theorem member_names {k : String} (h : schema.member? k = none) : wire.member? k = none := by
  rcases wire_table.name_cases k with ⟨hk, -⟩ | ⟨i, hi, rfl, -⟩
  · exact hk
  · obtain ⟨f, -, rfl⟩ := List.mem_map.mp hi
    rcases strict_table.name_cases f.name with ⟨-, hk⟩ | ⟨j, -, -, hj⟩
    · exact absurd rfl (hk _ (List.mem_map_of_mem f.mem_all))
    · cases h.symm.trans hj

/-- The field that a member is read into. -/
theorem member_field {k : String} {m : Json.Member (Draft String)} (h : schema.member? k = some m) :
    ∃ f : Field, k = f.name ∧ m = (slot Reader.text false f).member ∧
      wire.member? k = some (slot Reader.text.orNull true f).member := by
  rcases strict_table.name_cases k with ⟨hnone, -⟩ | ⟨i, hi, rfl, hsome⟩
  · cases hnone.symm.trans h
  · obtain ⟨f, -, rfl⟩ := List.mem_map.mp hi
    cases hsome.symm.trans h
    refine ⟨f, rfl, rfl, ?_⟩
    cases f <;> rfl

/-- **The members of an object that are read strictly** are read by the lenient reader alike. -/
theorem lenient_reads (h : schema.Reads d members d') (hv : ∀ m ∈ members, IsValue m.2) :
    wire.Reads (d.map some) members (d'.map some) := by
  induction h with
  | done => exact .done
  | skip hk _ ih => exact .skip (member_names hk) (ih (List.forall_mem_cons.mp hv).2)
  | read hk hgiven ht _ ih =>
    obtain ⟨hvalue, hrest⟩ := List.forall_mem_cons.mp hv
    obtain ⟨f, rfl, rfl, hwire⟩ := member_field hk
    obtain ⟨t, hholds, rfl⟩ := Json.text_exact.of_map_takes hvalue ht
    have htakes : Reader.text.orNull.Takes _ (some t) := Json.textOrNull_takes hholds
    refine .read hwire ?_ (htakes.map _) ?_
    · simpa [Slot.member, slot, Draft.get_map] using hgiven
    · rw [slot_put_map]
      exact ih hrest

/-- **The elements of an array that are read strictly** are read by the lenient reader alike. -/
theorem lenient_inOrder (fs : List Field)
    (h : InOrder (fs.map (slot Reader.text false)) d values d') (hv : ∀ u ∈ values, IsValue u) :
    InOrder (fs.map (slot Reader.text.orNull true)) (d.map some) values (d'.map some) := by
  induction fs generalizing d values with
  | nil =>
    cases h
    exact .done (by simp)
  | cons f fs ih =>
    cases h with
    | done hoptional => exact absurd (hoptional _ List.mem_cons_self) (by simp [slot])
    | @read _ _ _ _ _ t _ ht h =>
      obtain ⟨hvalue, hrest⟩ := List.forall_mem_cons.mp hv
      have hholds : Holds _ (.text t) := Json.text_exact.of_takes hvalue ht
      have htakes : Reader.text.orNull.Takes _ (some t) := Json.textOrNull_takes hholds
      exact InOrder.read (i := slot Reader.text.orNull true f) htakes
        (slot_put_map f d t ▸ ih h hrest)

/-- What the strict reader reads, the reader of the wire form reads with every field given. -/
theorem lenient_parse (h : reader.parse s = .ok p) :
    wire.reader.parse s = .ok ((full p).map some) := by
  have hsound : ∀ i ∈ Field.all.map (slot Reader.text false), i.reader.Sound :=
    forall_slots.mpr fun _ => Json.text_exact.toSound
  rcases strict_table.shape_reads hsound h with
    ⟨v, members, d, ht, hv, hreads, hfinish⟩ | ⟨v, values, d, ht, hv, horder, hfinish⟩
  · obtain rfl := eq_full_of_draft hfinish
    have hwire := lenient_reads hreads hv.values
    exact (Json.Schema.reader_takes hv hwire rfl).parse ht
  · obtain rfl := eq_full_of_draft hfinish
    have hwire := lenient_inOrder Field.all horder hv.values
    exact (wire_table.takes_list hv hwire rfl).parse ht

/-- **What is read strictly is decoded to the same payload**: six strings, of which the organization
is trimmed and must not be blank then. It never fails to decode. -/
theorem decode_of_strict (h : reader.parse s = .ok p) :
    (Text.trim p.organizationId ≠ "" →
      decode s = .ok { p with organizationId := Text.trim p.organizationId }) ∧
    (Text.trim p.organizationId = "" → decode s = .error (.emptyField "organization_id")) ∧
    ∀ reason, decode s ≠ .error (.decode reason) := by
  have hdecode : decode s = if Text.trim p.organizationId = ""
      then .error (.emptyField "organization_id")
      else .ok { p with organizationId := Text.trim p.organizationId } := by
    rw [decode_of_ok (lenient_parse h)]
    simp only [ofRaw, String.isEmpty_iff]
    rfl
  rw [hdecode]
  refine ⟨fun hblank => if_neg hblank, fun hblank => if_pos hblank, ?_⟩
  intro reason
  split <;> simp

/-- A payload as it is written, with blanks around the organization. -/
theorem decode_of_strict_trimmed :
    let p : Payload := ⟨" org\u00A0", "owner", "US", "", "USD", "now"⟩
    reader.parse (Utf8.encodeChars p.write) = .ok p ∧
      decode (Utf8.encodeChars p.write) = .ok { p with organizationId := "org" } := by
  intro p
  have hread : reader.parse (Utf8.encodeChars p.write) = .ok p := (payload_recovered p).parse
  have htrim : Text.trim p.organizationId = "org" := by decide +kernel
  refine ⟨hread, ?_⟩
  rw [(decode_of_strict hread).1 (by rw [htrim]; decide), htrim]

end OutboxProvisioning.Payload
