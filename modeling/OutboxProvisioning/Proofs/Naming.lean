import OutboxProvisioning.Proofs.Payload
import OutboxProvisioning.Proofs.Report
import OutboxProvisioning.Proofs.Sharing
import OutboxProvisioning.Proofs.Spelling

/-!
# One organization under many spellings

Payloads may spell the identifier of one organization in different ways, with white space around
it. All of them name the same organization, and all of its events together make one workspace.

* `Payload.Gives`, `Event.Spells`: the payload of an event is an object that spells an organization.
* `Payload.organization_eq_ok_iff`: what names an organization, and `organization_of_unspelled`: what
  names none.
* `Shared.Attributed`: what was provisioned was provisioned for an event that names the organization.
* `organization_of_spelling`: **one organization, one identifier, one workspace.**
-/

namespace OutboxProvisioning

open Json (Held IsObject IsText)
open Uuid (IsUrn)

variable {t : String} {text : Bytes} {u : Uuid} {m : Shared}

/-- The text has a spelling of the identifier in it, and white space around that. -/
inductive Uuid.SpelledIn (u : Uuid) : String → Prop
  | padded {before cs behind : List Char} (hbefore : ∀ c ∈ before, Text.isBlank c = true)
      (h : u.Spells IsUrn cs) (hbehind : ∀ c ∈ behind, Text.isBlank c = true) :
      SpelledIn u (String.ofList (before ++ (cs ++ behind)))

namespace Payload

/-- **A payload object with this text for its organization.** Each of the members that are known
comes once at most, with a string or `null`. -/
inductive Gives (text : Bytes) (t : String) : Prop
  | object {v : Bytes} {members : List (String × Bytes)} {held : List (String × Held)}
      (ht : IsText v text) (hv : IsObject v members) (hh : Shows members held)
      (hu : ∀ n ∈ names, (n, Held.garbled) ∉ held) (hf : ¬ Faulty held)
      (h : ("organization_id", Held.text t) ∈ held)

theorem Gives.decode (h : Gives text t) (hblank : Text.trim t ≠ "") :
    ∃ p, decode text = .ok p ∧ p.organizationId = Text.trim t := by
  obtain @⟨v, members, held, ht, hv, hh, hu, hf, hmem⟩ := h
  have honce : (held.map Prod.fst).count "organization_id" ≤ 1 := by
    by_contra hcount
    exact hf ⟨_, List.mem_cons_self, .inl (by omega)⟩
  have htext : textOf held "organization_id" = t := by
    rw [textOf, lookup_of_mem hmem honce]
  have hdecode := decode_fields hh hu ht hv hf
  rw [htext, if_neg hblank] at hdecode
  exact ⟨_, hdecode, congrArg Text.trim htext⟩

/-- **What names an organization** is a spelling of its identifier. -/
theorem organization_eq_ok_iff {p : Payload} {o : OrganizationId} :
    p.organization = .ok o ↔ o.uuid.Spells IsUrn p.organizationId.toList := by
  rw [← Uuid.ofChars?_eq_some_iff]
  unfold organization OrganizationId.ofString Uuid.ofString Uuid.ofString?
  cases Uuid.ofChars? p.organizationId.toList with
  | none => simp [Except.map]
  | some u =>
    simp only [Except.map, Except.ok.injEq, Option.some.injEq]
    constructor
    · rintro rfl
      rfl
    · rintro rfl
      rfl

/-- What spells nothing is refused, and the error has it. -/
theorem organization_of_unspelled {p : Payload}
    (h : ∀ u : Uuid, ¬ u.Spells IsUrn p.organizationId.toList) :
    ∃ reason, p.organization = .error (.identifierFormat p.organizationId reason) := by
  cases ho : p.organization with
  | ok o => exact absurd (organization_eq_ok_iff.mp ho) (h o.uuid)
  | error e =>
    unfold organization at ho
    split at ho
    · cases ho
    · cases ho
      exact ⟨_, rfl⟩

end Payload

theorem Uuid.SpelledIn.trim (h : u.SpelledIn t) :
    u.Spells IsUrn (Text.trim t).toList ∧ Text.trim t ≠ "" := by
  obtain ⟨hbefore, h, hbehind⟩ := h
  have htrim := Text.trimChars_padded hbefore h.not_blank hbehind
  simp only [Text.trim, String.toList_ofList, htrim]
  refine ⟨h, fun hempty => ?_⟩
  obtain rfl : _ = [] := String.ofList_eq_empty_iff.mp hempty
  have hlength := congrArg Option.isSome (Uuid.ofChars?_eq_some_iff.mpr h)
  simp [Uuid.ofChars?] at hlength

/-- The payload of an event is an object that spells an organization. -/
def Event.Spells (e : Event) (u : Uuid) : Prop := ∃ t, Payload.Gives e.payload t ∧ u.SpelledIn t

theorem Event.Spells.names {e : Event} (h : e.Spells u) : e.Names ⟨u⟩ := by
  obtain ⟨t, hgives, hspelled⟩ := h
  obtain ⟨hspells, hblank⟩ := hspelled.trim
  obtain ⟨p, hp, hid⟩ := hgives.decode hblank
  exact ⟨p, hp, Payload.organization_eq_ok_iff.mpr (hid ▸ hspells)⟩

theorem Event.Names.unique {e : Event} {o o' : OrganizationId} (h : e.Names o) (h' : e.Names o') :
    o = o' := by
  obtain ⟨p, hp, ho⟩ := h
  obtain ⟨p', hp', ho'⟩ := h'
  cases hp.symm.trans hp'
  cases ho.symm.trans ho'
  rfl

theorem Event.Names.congr {e e' : Event} {o : OrganizationId} (h : e.Names o)
    (hpayload : e'.payload = e.payload) : e'.Names o := by
  rw [Event.Names, hpayload]
  exact h

/-! ### Outcomes and the events they are had for -/

namespace Shared

/-- A turn takes no event away, and changes no payload. -/
theorem turn_event (h : Consistent m) {id : EventId} {e : Event} (he : m.store.event? id = some e)
    (t : Turn) : ∃ e', (m.turn t).store.event? id = some e' ∧ e'.payload = e.payload := by
  have hsame : ∃ e', m.store.event? id = some e' ∧ e'.payload = e.payload := ⟨e, he, rfl⟩
  cases t with
  | insert x =>
    simp only [turn]
    split
    · next hnew =>
      have hid : id ≠ x.id := by
        rintro rfl
        exact hnew.2.2 (h.inserted he)
      refine ⟨e, ?_, rfl⟩
      have hfind := Table.find?_insert m.store.events x.id id x
      rw [if_neg hid] at hfind
      exact hfind.trans he
    · exact hsame
  | switch point on => exact hsame
  | fetch eventType limit =>
    simp only [turn, keep]
    split <;> exact hsame
  | handle x draw meanwhile =>
    simp only [turn]
    split
    · obtain ⟨-, ⟨-, hstore⟩ | ⟨p, -, hp⟩⟩ :=
        Flickering.handle_cases ⟨m.store, meanwhile⟩ h.free x.command draw
      · exact ⟨e, (hstore.event id).trans he, rfl⟩
      · exact hp.event_mono he
    · exact hsame

/-- **What was provisioned** was provisioned for an event that names the organization. -/
def Attributed (m : Shared) : Prop :=
  ∀ x ∈ m.outcomes, ∀ p, x.result = .ok p →
    ∃ e, m.store.event? x.eventId = some e ∧ e.Names p.organizationId

/-- Outcomes that were had before still have their events. -/
theorem Attributed.later (ha : m.Attributed) (h : Consistent m) (t : Turn) :
    ∀ x ∈ m.outcomes, ∀ p, x.result = .ok p →
      ∃ e, (m.turn t).store.event? x.eventId = some e ∧ e.Names p.organizationId := by
  intro x hx p hp
  obtain ⟨e, he, hnames⟩ := ha x hx p hp
  obtain ⟨e', he', hpayload⟩ := turn_event h he t
  exact ⟨e', he', hnames.congr hpayload⟩

/-- Only work on an event adds an outcome. -/
theorem turn_cases (m : Shared) (t : Turn) : (m.turn t).outcomes = m.outcomes ∨
    ∃ e draw meanwhile, e ∈ m.fetched ∧ t = .handle e draw meanwhile := by
  cases t with
  | insert e =>
    simp only [turn]
    split <;> exact .inl rfl
  | switch point on => exact .inl rfl
  | fetch eventType limit =>
    simp only [turn, keep]
    split <;> exact .inl rfl
  | handle e draw meanwhile =>
    by_cases he : e ∈ m.fetched
    · exact .inr ⟨e, draw, meanwhile, he, rfl⟩
    · exact .inl (congrArg outcomes (if_neg he))

theorem Attributed.turn (ha : m.Attributed) (h : Consistent m) (t : Turn) :
    (m.turn t).Attributed := by
  have hlater := ha.later h t
  rcases m.turn_cases t with hsame | ⟨e, draw, meanwhile, he, rfl⟩
  · rw [Attributed, hsame]
    exact hlater
  · let f : Flickering := ⟨m.store, meanwhile⟩
    have hturn : m.turn (.handle e draw meanwhile) = m.record (f.handle e.command draw).2.store
        ⟨e.id, (f.handle e.command draw).1.result⟩ := if_pos he
    intro x hx p hp
    rw [hturn] at hx
    rcases List.mem_append.mp hx with hx | hx
    · exact hlater x hx p hp
    · -- the new outcome is had for the event as it was fetched
      obtain rfl := List.mem_singleton.mp hx
      obtain ⟨stored, hstored, hpayload⟩ := h.fetched he
      obtain ⟨-, ⟨⟨err, herr⟩, -⟩ | ⟨p', hok, hprovisions⟩⟩ := f.handle_cases h.free e.command draw
      · cases hp.symm.trans herr
      · cases hp.symm.trans hok
        obtain ⟨e', he', hpayload'⟩ := hprovisions.event_mono hstored
        have hnames : e.Names p.organizationId := hprovisions.names
        rw [hturn]
        exact ⟨e', he', hnames.congr (hpayload'.trans hpayload)⟩

theorem Attributed.run (moves : List Move) : (run moves).Attributed :=
  (run_preserves (P := fun m => Consistent m ∧ m.Attributed) ⟨.start, by simp [Attributed, start]⟩
    (fun _ t h => ⟨h.1.turn t, h.2.turn h.1 t⟩) moves).2

/-- The workspace of a creation is one that was created for the organization of its event. -/
theorem Attributed.created (ha : m.Attributed) {x : EventOutcome} (hx : x ∈ m.outcomes)
    (hcreation : x.isCreation = true) {e : Event} (he : m.store.event? x.eventId = some e)
    {o : OrganizationId} (ho : e.Names o) : (x.created? o).isSome = true := by
  obtain ⟨id, result⟩ := x
  match result, hcreation with
  | .ok ⟨o', .created w⟩, _ =>
    obtain ⟨e', he', ho'⟩ := ha _ hx _ rfl
    cases he.symm.trans he'
    obtain rfl := ho.unique ho'
    simp [EventOutcome.created?]

/-- **Events that spell one organization make one workspace**, whoever handles them. -/
theorem creations_pairwise (moves : List Move) (u : Uuid) :
    (run moves).outcomes.Pairwise fun x y => ¬ (x.isCreation = true ∧ y.isCreation = true ∧
      (∃ e, (run moves).store.event? x.eventId = some e ∧ e.Spells u) ∧
      ∃ e, (run moves).store.event? y.eventId = some e ∧ e.Spells u) := by
  have ha := Attributed.run moves
  have hlength : ((run moves).created ⟨u⟩).length ≤ 1 := by
    rw [(Consistent.run moves).created]
    cases (run moves).store.workspace? ⟨u⟩ <;> simp
  rw [List.pairwise_iff_forall_sublist]
  rintro x y hsub ⟨hx, hy, ⟨e, he, hspells⟩, e', he', hspells'⟩
  have hxs := ha.created (hsub.subset List.mem_cons_self) hx he hspells.names
  have hys := ha.created (hsub.subset (by simp)) hy he' hspells'.names
  obtain ⟨w, hw⟩ := Option.isSome_iff_exists.mp hxs
  obtain ⟨w', hw'⟩ := Option.isSome_iff_exists.mp hys
  -- both would be among the workspaces of the organization
  have htwo := (hsub.filterMap (·.created? ⟨u⟩)).length_le
  simp only [List.filterMap_cons, hw, hw', List.filterMap_nil, List.length_cons,
    List.length_nil] at htwo
  exact absurd (htwo.trans hlength) (by decide)

end Shared

/-- **One organization, one identifier, one workspace.** An object with any spelling of an identifier
for its organization, and any white space around it, names the organization of that identifier; a
text that spells none is refused, and the error has it. An identifier is shown with hyphens and
without capitals, and read back from that. Of all that is done for events that spell one
organization, once at most a workspace is created. -/
theorem organization_of_spelling :
    (∀ u text t, Payload.Gives text t → u.SpelledIn t →
      ∃ p, Payload.decode text = .ok p ∧ p.organizationId = Text.trim t ∧
        p.organization = .ok ⟨u⟩) ∧
    (∀ text t, Payload.Gives text t → Text.trim t ≠ "" →
      (∀ u : Uuid, ¬ u.Spells IsUrn (Text.trim t).toList) →
      ∃ p reason, Payload.decode text = .ok p ∧
        p.organization = .error (.identifierFormat (Text.trim t) reason)) ∧
    (∀ o : OrganizationId, o.uuid.IsGroups (toString o).toList ∧
      (∀ c ∈ (toString o).toList, c.toLower = c) ∧ OrganizationId.ofString (toString o) = .ok o) ∧
    ∀ moves u, (Shared.run moves).outcomes.Pairwise fun x y =>
      ¬ (x.isCreation = true ∧ y.isCreation = true ∧
        (∃ e, (Shared.run moves).store.event? x.eventId = some e ∧ e.Spells u) ∧
        ∃ e, (Shared.run moves).store.event? y.eventId = some e ∧ e.Spells u) := by
  refine ⟨?_, ?_, ?_, Shared.creations_pairwise⟩
  · intro u text t hgives hspelled
    obtain ⟨hspells, hblank⟩ := hspelled.trim
    obtain ⟨p, hp, hid⟩ := hgives.decode hblank
    exact ⟨p, hp, hid, Payload.organization_eq_ok_iff.mpr (hid ▸ hspells)⟩
  · intro text t hgives hblank hnone
    obtain ⟨p, hp, hid⟩ := hgives.decode hblank
    obtain ⟨reason, hreason⟩ := Payload.organization_of_unspelled (p := p) (hid ▸ hnone)
    exact ⟨p, reason, hp, hid ▸ hreason⟩
  · intro o
    have hchars : (toString o).toList = o.uuid.chars := String.toList_ofList
    obtain ⟨hgroups, hlower⟩ := o.uuid.chars_spelled
    rw [hchars]
    refine ⟨hgroups, hlower, ?_⟩
    exact congrArg (Except.map OrganizationId.mk) (Uuid.ofString_toString o.uuid)

/-- An object of one member as it is written. -/
theorem gives_written (t : String) :
    Payload.Gives (Utf8.encodeChars (Json.writeObject [("organization_id", Json.writeText t)])) t := by
  have hshows : Payload.Shows [("organization_id", Utf8.encodeChars (Json.writeText t))]
      [("organization_id", Held.text t)] := .cons ⟨rfl, Json.holds_text t⟩ .nil
  refine .object (Json.isText_bare _) (Json.isObject_written ?_) hshows (by simp) ?_
    List.mem_cons_self
  · simpa using Json.value_text t
  · rintro ⟨n, -, hcount | hother⟩
    · have := List.count_le_length (a := n) (l := ["organization_id"])
      simp only [List.map_cons, List.map_nil] at hcount
      simp only [List.length_cons, List.length_nil] at this
      omega
    · simp at hother

/-- A name in capitals and small letters, between two blanks. -/
theorem organization_of_spelling_named :
    let t := " urn:uuid:550E8400-e29b-41D4-a716-446655440000\u3000"
    let text := Utf8.encodeChars (Json.writeObject [("organization_id", Json.writeText t)])
    ∃ p, Payload.decode text = .ok p ∧
      p.organizationId = "urn:uuid:550E8400-e29b-41D4-a716-446655440000" ∧
      p.organization = .ok ⟨⟨0x550e8400e29b41d4a716446655440000⟩⟩ := by
  intro t text
  have hspells : Uuid.Spells IsUrn ⟨0x550e8400e29b41d4a716446655440000⟩
      "urn:uuid:550E8400-e29b-41D4-a716-446655440000".toList :=
    Uuid.ofChars?_eq_some_iff.mp (by decide +kernel)
  have ht : t = String.ofList ([' '] ++
      ("urn:uuid:550E8400-e29b-41D4-a716-446655440000".toList ++ ['\u3000'])) := by
    decide +kernel
  have hspelled : Uuid.SpelledIn ⟨0x550e8400e29b41d4a716446655440000⟩ t := by
    rw [ht]
    exact .padded (List.forall_mem_singleton.mpr (by decide)) hspells
      (List.forall_mem_singleton.mpr (by decide))
  obtain ⟨p, hp, hid, ho⟩ := organization_of_spelling.1 _ text t (gives_written t) hspelled
  exact ⟨p, hp, hid.trans (by decide +kernel), ho⟩

/-- The mark of a name may be in capitals too, which is none of the four spellings with the mark in
small letters. -/
theorem organization_of_capitals :
    let t := "URN:UUID:550e8400-e29b-41d4-a716-446655440000"
    let text := Utf8.encodeChars (Json.writeObject [("organization_id", Json.writeText t)])
    Payload.Gives text t ∧ Text.trim t = t ∧
      (∀ u : Uuid, ¬ u.Spells (· = "urn:uuid:".toList) t.toList) ∧
      ∃ p, Payload.decode text = .ok p ∧ p.organizationId = t ∧
        p.organization = .ok ⟨⟨0x550e8400e29b41d4a716446655440000⟩⟩ := by
  intro t text
  have hgives : Payload.Gives text t := gives_written t
  have htrim : Text.trim t = t := by decide +kernel
  refine ⟨hgives, htrim, ?_, ?_⟩
  · intro u h
    have hlength : t.toList.length = 45 := by decide +kernel
    have hfirst : t.toList.head? = some 'U' := by decide +kernel
    generalize t.toList = cs at *
    cases h with
    | plain h => rw [h.length] at hlength; cases hlength
    | grouped h => rw [h.length] at hlength; cases hlength
    | braced h => simp [h.length] at hlength
    | named hmark h =>
      rw [hmark] at hfirst
      exact absurd hfirst (by simp)
  · obtain ⟨p, hp, hid⟩ := hgives.decode (by rw [htrim]; decide)
    rw [htrim] at hid
    refine ⟨p, hp, hid, Payload.organization_eq_ok_iff.mpr ?_⟩
    rw [hid]
    exact Uuid.ofChars?_eq_some_iff.mp (by decide +kernel)

end OutboxProvisioning
