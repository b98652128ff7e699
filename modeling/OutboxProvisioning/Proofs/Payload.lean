import Mathlib.Tactic.FinCases
import OutboxProvisioning.Proofs.Json.Printer
import OutboxProvisioning.Proofs.Json.Record
import OutboxProvisioning.Proofs.Program

/-!
# What payloads are read as

The wire form of a payload has six fields, each a string, `null` or absent. What an object is
read as depends on what its members hold for these fields, and on nothing else. There is a second
form, an array of the fields in order.

* `decode_object`: **what an object is read as.**
* `decode_elements`, `decode_shapes`: what an array is read as, and that nothing else is read.
-/

namespace OutboxProvisioning.Payload

open Json (Blank Held Holds InOrder IsList IsObject IsText IsValue Reader Schema Slot)

variable {α β : Type} {s text text' v v' : Bytes} {members members' : List (String × Bytes)}
  {held held' : List (String × Held)} {values : List Bytes} {fields : List (Option String)}

/-! ## The six fields -/

/-- The fields of a payload. -/
inductive Field
  | organizationId
  | ownerId
  | countryCode
  | timezone
  | defaultCurrency
  | createdAt
deriving DecidableEq

namespace Field

/-- The name of a field on the wire. -/
def name : Field → String
  | organizationId => "organization_id"
  | ownerId => "owner_id"
  | countryCode => "country_code"
  | timezone => "timezone"
  | defaultCurrency => "default_currency"
  | createdAt => "created_at"

/-- The fields in their order. -/
def all : List Field :=
  [organizationId, ownerId, countryCode, timezone, defaultCurrency, createdAt]

theorem mem_all (f : Field) : f ∈ all := by
  cases f <;> decide

end Field

/-- The value of a field. -/
def Draft.get (d : Draft α) : Field → Option α
  | .organizationId => d.organizationId
  | .ownerId => d.ownerId
  | .countryCode => d.countryCode
  | .timezone => d.timezone
  | .defaultCurrency => d.defaultCurrency
  | .createdAt => d.createdAt

/-- Gives a field its value. -/
def Draft.put (d : Draft α) (a : α) : Field → Draft α
  | .organizationId => { d with organizationId := some a }
  | .ownerId => { d with ownerId := some a }
  | .countryCode => { d with countryCode := some a }
  | .timezone => { d with timezone := some a }
  | .defaultCurrency => { d with defaultCurrency := some a }
  | .createdAt => { d with createdAt := some a }

/-- The place of a field. -/
def slot (p : Reader α) (optional : Bool) (f : Field) : Slot (Draft α) :=
  ⟨f.name, p, fun d => d.get f, fun d a => d.put a f, optional⟩

theorem forall_slots {p : Reader α} {optional : Bool} {P : Slot (Draft α) → Prop} :
    (∀ i ∈ Field.all.map (slot p optional), P i) ↔ ∀ f, P (slot p optional f) := by
  constructor
  · exact fun h f => h _ (List.mem_map_of_mem f.mem_all)
  · intro h i hi
    obtain ⟨f, -, rfl⟩ := List.mem_map.mp hi
    exact h f

/-- **The six fields do not get into each other's way.** -/
theorem table (title : String) (p : Reader α) (optional : Bool)
    (finish : Draft α → Except String β) :
    Schema.Table ⟨title, Payload.members p optional, Draft.none, finish⟩
      (Field.all.map (slot p optional)) where
  members := rfl
  names := by
    have hnames : (Field.all.map (slot p optional)).map Slot.name = Field.all.map Field.name := rfl
    rw [hnames]
    decide
  start := forall_slots.mpr fun f => by cases f <;> rfl
  same := forall_slots.mpr fun f d a => by cases f <;> rfl
  other := forall_slots.mpr fun f => forall_slots.mpr fun g hne d a => by
    cases f <;> cases g <;> first | rfl | exact absurd rfl hne

theorem wire_table : wire.Table (Field.all.map (slot Reader.text.orNull true)) :=
  table "struct RawPayload" Reader.text.orNull true .ok

/-! ## Objects -/

/-- What the members of an object hold, each under its name. -/
def Shows (members : List (String × Bytes)) (held : List (String × Held)) : Prop :=
  List.Forall₂ (fun m h => m.1 = h.1 ∧ Holds m.2 h.2) members held

/-- The names that are known. -/
def names : List String :=
  ["organization_id", "owner_id", "country_code", "timezone", "default_currency", "created_at"]

/-- A known name comes twice, or with neither a string nor `null`. -/
def Faulty (held : List (String × Held)) : Prop :=
  ∃ n ∈ names, 2 ≤ (held.map Prod.fst).count n ∨ (n, Held.other) ∈ held

instance (held : List (String × Held)) : Decidable (Faulty held) :=
  inferInstanceAs (Decidable (∃ n ∈ names, _))

/-- The text under a name; it is empty where there is none, or `null`. -/
def textOf (held : List (String × Held)) (name : String) : String :=
  match held.lookup name with
  | some (.text t) => t
  | _ => ""

/-- The members with known names. -/
def known (held : List (String × Held)) : List (String × Held) := held.filter fun m => m.1 ∈ names

/-- Whatever the values of an object are, its members hold something. -/
theorem exists_shows (h : IsObject v members) : ∃ held, Shows members held := by
  cases h with
  | entries _ hs hv he =>
    clear hs
    induction he with
    | nil => exact ⟨[], .nil⟩
    | @cons e m entries members hm _ ih =>
      obtain ⟨hev, hv⟩ := List.forall_mem_cons.mp hv
      obtain ⟨held, hheld⟩ := ih hv
      obtain ⟨x, hx⟩ := hev.exists_holds
      rw [hm.2] at hx
      exact ⟨(m.1, x) :: held, .cons ⟨rfl, hx⟩ hheld⟩

theorem Shows.named (h : Shows members held) : Json.Named Holds members held := h

theorem name_mem (f : Field) : f.name ∈ names := by
  cases f <;> decide

theorem field_of_name {n : String} (h : n ∈ names) : ∃ f : Field, f.name = n := by
  have hnames : names = Field.all.map Field.name := rfl
  rw [hnames] at h
  obtain ⟨f, -, hf⟩ := List.mem_map.mp h
  exact ⟨f, hf⟩

/-- A name that comes once is looked up as it comes. -/
theorem lookup_of_mem {n : String} {x : Held} (h : (n, x) ∈ held)
    (honce : (held.map Prod.fst).count n ≤ 1) : held.lookup n = some x := by
  induction held with
  | nil => cases h
  | cons y held ih =>
    obtain ⟨n', y⟩ := y
    by_cases hn : n = n'
    · subst hn
      rcases List.mem_cons.mp h with h | h
      · cases h
        exact List.lookup_cons_self
      · -- it would come twice
        have hmem : n ∈ held.map Prod.fst := List.mem_map_of_mem (f := Prod.fst) h
        have := List.count_pos_iff.mpr hmem
        rw [List.map_cons, List.count_cons_self] at honce
        omega
    · rcases List.mem_cons.mp h with h | h
      · exact absurd (congrArg Prod.fst h) hn
      · rw [List.map_cons, List.count_cons_of_ne (Ne.symm hn)] at honce
        rw [List.lookup_cons, beq_false_of_ne hn]
        exact ih h honce

theorem lookup_of_not_mem {n : String} (h : n ∉ held.map Prod.fst) : held.lookup n = none := by
  rw [List.lookup_eq_none_iff]
  intro x hx
  rw [bne_iff_ne]
  rintro rfl
  exact h (List.mem_map_of_mem hx)

/-- A payload as its fields say. -/
def fromFields (get : String → String) : Payload where
  organizationId := Text.trim (get "organization_id")
  ownerId := get "owner_id"
  countryCode := get "country_code"
  timezone := get "timezone"
  defaultCurrency := get "default_currency"
  createdAt := get "created_at"

theorem ofRaw_fields {raw : Raw} {get : String → String}
    (h : ∀ f : Field, orEmpty (raw.get f) = get f.name) :
    ofRaw raw = if Text.trim (get "organization_id") = ""
      then .error (.emptyField "organization_id") else .ok (fromFields get) := by
  have h1 := h .organizationId
  have h2 := h .ownerId
  have h3 := h .countryCode
  have h4 := h .timezone
  have h5 := h .defaultCurrency
  have h6 := h .createdAt
  simp only [Draft.get, Field.name] at h1 h2 h3 h4 h5 h6
  simp only [ofRaw, h1, h2, h3, h4, h5, h6, String.isEmpty_iff]
  rfl

theorem decode_of_ok {raw : Raw} (h : wire.reader.parse s = .ok raw) : decode s = ofRaw raw := by
  rw [decode, h]

theorem decode_of_error {reason : String} (h : wire.reader.parse s = .error reason) :
    decode s = .error (.decode reason) := by
  rw [decode, h]

section
variable (hh : Shows members held) (hu : ∀ n ∈ names, (n, Held.garbled) ∉ held)
include hh hu

/-- What a known member holds is taken, or is neither a string nor `null`. -/
theorem member_cases {f : Field} {u : Bytes} (hm : (f.name, u) ∈ members) :
    (∃ o, (f.name, Held.ofOption o) ∈ held ∧ Reader.text.orNull.Takes u o) ∨
      (f.name, Held.other) ∈ held ∧ Reader.text.orNull.Refuses u := by
  obtain ⟨x, hx, hholds⟩ := hh.named.content hm
  cases x with
  | null => exact .inl ⟨none, hx, Json.textOrNull_takes hholds⟩
  | text t => exact .inl ⟨some t, hx, Json.textOrNull_takes hholds⟩
  | garbled => exact absurd hx (hu _ (name_mem f))
  | other => exact .inr ⟨hx, Json.textOrNull_refuses hholds⟩

theorem decode_faulty (ht : IsText v text) (hv : IsObject v members) (hf : Faulty held) :
    ∃ reason, decode text = .error (.decode reason) := by
  have heach : ∀ i ∈ Field.all.map (slot Reader.text.orNull true), ∀ u, (i.name, u) ∈ members →
      (∃ a, i.reader.Takes u a) ∨ i.reader.Refuses u := by
    refine forall_slots.mpr fun f u hm => ?_
    rcases member_cases hh hu hm with ⟨o, -, ho⟩ | ⟨-, hr⟩
    · exact .inl ⟨o, ho⟩
    · exact .inr hr
  have hrefuses : wire.reader.Refuses v := by
    refine wire_table.refuses hv heach ?_
    obtain ⟨n, hn, h⟩ := hf
    obtain ⟨f, rfl⟩ := field_of_name hn
    refine ⟨_, List.mem_map_of_mem f.mem_all, ?_⟩
    rcases h with hcount | hother
    · rw [← hh.named.names_eq] at hcount
      exact .inl hcount
    · obtain ⟨u, hmem, hholds⟩ := hh.named.member hother
      exact .inr ⟨u, hmem, Json.textOrNull_refuses hholds⟩
  obtain ⟨reason, hr⟩ := hrefuses.parse ht
  exact ⟨reason, decode_of_error hr⟩

/-- An object without fault is read field by field. -/
theorem decode_fields (ht : IsText v text) (hv : IsObject v members) (hf : ¬ Faulty held) :
    decode text = if Text.trim (textOf held "organization_id") = ""
      then .error (.emptyField "organization_id") else .ok (fromFields (textOf held)) := by
  have honce : ∀ f : Field, (held.map Prod.fst).count f.name ≤ 1 := by
    intro f
    by_contra h
    exact hf ⟨f.name, name_mem f, .inl (by omega)⟩
  have hgood : ∀ f : Field, (f.name, Held.other) ∉ held :=
    fun f h => hf ⟨f.name, name_mem f, .inr h⟩
  obtain ⟨raw, hfound, htakes, -⟩ := wire_table.takes hv
    (forall_slots.mpr fun f => by rw [hh.named.names_eq]; exact honce f)
    (forall_slots.mpr fun f u hm => by
      rcases member_cases hh hu hm with ⟨o, -, ho⟩ | ⟨hother, -⟩
      · exact ⟨o, ho⟩
      · exact absurd hother (hgood f))
  rw [decode_of_ok ((htakes raw rfl).parse ht)]
  refine ofRaw_fields fun f => ?_
  have hslot : (slot Reader.text.orNull true f).Found members (raw.get f) :=
    forall_slots.mp hfound f
  cases hget : raw.get f with
  | none =>
    -- the field is empty because no member has its name
    rw [hget] at hslot
    have hnot : f.name ∉ held.map Prod.fst := hh.named.names_eq ▸ hslot
    rw [textOf, lookup_of_not_mem hnot]
    rfl
  | some o =>
    rw [hget] at hslot
    obtain ⟨u, hm, ho⟩ := hslot
    rcases member_cases hh hu hm with ⟨o', hmem, ho'⟩ | ⟨hother, -⟩
    · obtain rfl := ho.unique ho'
      rw [textOf, lookup_of_mem hmem (honce f)]
      cases o <;> rfl
    · exact absurd hother (hgood f)

end

/-! ### Members that are not known -/

theorem count_known {n : String} (hn : n ∈ names) (held : List (String × Held)) :
    ((known held).map Prod.fst).count n = (held.map Prod.fst).count n := by
  induction held with
  | nil => rfl
  | cons x held ih =>
    rw [known, List.filter_cons]
    split
    · rw [List.map_cons, List.map_cons, List.count_cons, List.count_cons]
      exact congrArg (· + _) ih
    · next hx =>
      have hne : x.1 ≠ n := by
        rintro rfl
        exact hx (by simpa using hn)
      rw [List.map_cons, List.count_cons_of_ne hne]
      exact ih

theorem mem_known {n : String} {x : Held} (hn : n ∈ names) :
    (n, x) ∈ known held ↔ (n, x) ∈ held := by
  simp [known, hn]

theorem faulty_known (h : (known held').Perm (known held)) : Faulty held' ↔ Faulty held := by
  have key : ∀ n ∈ names, (2 ≤ (held'.map Prod.fst).count n ∨ (n, Held.other) ∈ held') ↔
      (2 ≤ (held.map Prod.fst).count n ∨ (n, Held.other) ∈ held) := by
    intro n hn
    rw [← count_known hn, ← count_known hn held, (h.map Prod.fst).count_eq, ← mem_known hn,
      h.mem_iff, mem_known hn]
  constructor <;> rintro ⟨n, hn, hx⟩
  · exact ⟨n, hn, (key n hn).mp hx⟩
  · exact ⟨n, hn, (key n hn).mpr hx⟩

/-- Where nothing is at fault the known members alone say what a name holds, in any order. -/
theorem textOf_known (h : (known held').Perm (known held)) (hf : ¬ Faulty held) {n : String}
    (hn : n ∈ names) : textOf held' n = textOf held n := by
  have honce : (held.map Prod.fst).count n ≤ 1 := by
    by_contra hcount
    exact hf ⟨n, hn, .inl (by omega)⟩
  have hcount : (held'.map Prod.fst).count n = (held.map Prod.fst).count n := by
    rw [← count_known hn, ← count_known hn held, (h.map Prod.fst).count_eq]
  rw [textOf, textOf]
  by_cases hmem : n ∈ held.map Prod.fst
  · obtain ⟨⟨n', x⟩, hx, rfl⟩ := List.mem_map.mp hmem
    have hx' : (n', x) ∈ held' := (mem_known hn).mp (h.mem_iff.mpr ((mem_known hn).mpr hx))
    rw [lookup_of_mem hx honce, lookup_of_mem hx' (by rw [hcount]; exact honce)]
  · have hmem' : n ∉ held'.map Prod.fst := by
      rw [← List.count_eq_zero] at hmem ⊢
      rw [hcount, hmem]
    rw [lookup_of_not_mem hmem, lookup_of_not_mem hmem']

/-- **What an object is read as.** Let its names and the strings of the known members be Unicode.
It is refused if a known name comes twice or with neither a string nor `null`; else the organization
must be more than white space; else each field is its string, and the organization is trimmed. Other
members and the order of the members make no difference. -/
theorem decode_object (ht : IsText v text) (hv : IsObject v members) (hh : Shows members held)
    (hu : ∀ n ∈ names, (n, Held.garbled) ∉ held) :
    (Faulty held → ∃ reason, decode text = .error (.decode reason)) ∧
    (¬ Faulty held → Text.trim (textOf held "organization_id") = "" →
      decode text = .error (.emptyField "organization_id")) ∧
    (¬ Faulty held → Text.trim (textOf held "organization_id") ≠ "" →
      decode text = .ok {
        organizationId := Text.trim (textOf held "organization_id")
        ownerId := textOf held "owner_id"
        countryCode := textOf held "country_code"
        timezone := textOf held "timezone"
        defaultCurrency := textOf held "default_currency"
        createdAt := textOf held "created_at" }) ∧
    ∀ text' v' members' held', IsText v' text' → IsObject v' members' → Shows members' held' →
      (known held').Perm (known held) → ∀ p, decode text = .ok p → decode text' = .ok p := by
  refine ⟨decode_faulty hh hu ht hv, ?_, ?_, ?_⟩
  · intro hf hblank
    rw [decode_fields hh hu ht hv hf, if_pos hblank]
  · intro hf hblank
    rw [decode_fields hh hu ht hv hf, if_neg hblank]
    rfl
  · intro text' v' members' held' ht' hv' hh' hperm p hp
    -- only known members are looked at, and the other object has the same ones
    have hf : ¬ Faulty held := by
      intro hf
      obtain ⟨reason, hr⟩ := decode_faulty hh hu ht hv hf
      rw [hr] at hp
      cases hp
    have hu' : ∀ n ∈ names, (n, Held.garbled) ∉ held' := by
      intro n hn hmem
      exact hu n hn ((mem_known hn).mp (hperm.mem_iff.mp ((mem_known hn).mpr hmem)))
    have hf' : ¬ Faulty held' := fun h => hf ((faulty_known hperm).mp h)
    have hsame : ∀ n ∈ names, textOf held' n = textOf held n := fun n hn => textOf_known hperm hf hn
    rw [decode_fields hh hu ht hv hf] at hp
    rw [decode_fields hh' hu' ht' hv' hf']
    simpa [fromFields, hsame _ (by decide : "organization_id" ∈ names),
      hsame _ (by decide : "owner_id" ∈ names), hsame _ (by decide : "country_code" ∈ names),
      hsame _ (by decide : "timezone" ∈ names), hsame _ (by decide : "default_currency" ∈ names),
      hsame _ (by decide : "created_at" ∈ names)] using hp

/-- An object with a blank around the organization, an owner that is `null` and an unknown
member. -/
theorem decode_object_trimmed :
    decode (Utf8.encodeChars (Json.writeObject [("extra", Json.writeList [Json.writeObject []]),
      ("owner_id", "null".toList), ("organization_id", Json.writeText " org\t"),
      ("timezone", Json.writeText "UTC")])) = .ok ⟨"org", "", "", "UTC", "", ""⟩ := by
  have hobject : IsValue (Utf8.encodeChars (Json.writeObject [])) := Json.value_object (by simp)
  have hempty : ∀ v ∈ [Json.writeObject []], IsValue (Utf8.encodeChars v) := by
    simpa using hobject
  have hextra := Json.value_list hempty
  refine (decode_object (Json.isText_bare _) (Json.isObject_written ?_) (?_ : Shows _
    [("extra", .other), ("owner_id", .null), ("organization_id", .text " org\t"),
      ("timezone", .text "UTC")]) (by decide)).2.2.1 (by decide) (by decide)
  · intro m hm
    fin_cases hm
    · exact hextra
    · exact .null
    · exact Json.value_text _
    · exact Json.value_text _
  · exact .cons ⟨rfl, Json.holds_list hempty⟩ (.cons ⟨rfl, .null⟩
      (.cons ⟨rfl, Json.holds_text _⟩ (.cons ⟨rfl, Json.holds_text _⟩ .nil)))

/-! ## Arrays -/

/-- The fields in their order; those that are left are not seen. -/
def Draft.inOrder (fields : List α) : Draft α :=
  ⟨fields[0]?, fields[1]?, fields[2]?, fields[3]?, fields[4]?, fields[5]?⟩

/-- The text is an object. -/
def IsObjectText (s : Bytes) : Prop := ∃ v members, IsText v s ∧ IsObject v members

/-- The text is an array of strings and `null`s. -/
def ShowsInOrder (s : Bytes) (fields : List (Option String)) : Prop :=
  ∃ v values, IsText v s ∧ IsList v values ∧
    List.Forall₂ (fun u o => Holds u (.ofOption o)) values fields

theorem inOrder_eq (fields : List α) : Draft.inOrder fields =
    (Field.all.zip fields).foldl (fun d x => d.put x.2 x.1) Draft.none := by
  rcases fields with _ | ⟨a, _ | ⟨b, _ | ⟨c, _ | ⟨d, _ | ⟨e, _ | ⟨f, rest⟩⟩⟩⟩⟩⟩ <;> rfl

/-- Strings and `null`s are put into the fields one after the other. -/
theorem inOrder_of_fields (fs : List Field) {d : Raw}
    (h : List.Forall₂ (fun u o => Holds u (.ofOption o)) values fields)
    (hlength : fields.length ≤ fs.length) :
    InOrder (fs.map (slot Reader.text.orNull true)) d values
      ((fs.zip fields).foldl (fun d x => d.put x.2 x.1) d) := by
  -- along the elements; the fields that are left when they end may be left out
  induction h generalizing fs d with
  | nil =>
    rw [List.zip_nil_right]
    refine .done fun i hi => ?_
    obtain ⟨f, -, rfl⟩ := List.mem_map.mp hi
    rfl
  | @cons u o values fields ho _ ih =>
    cases fs with
    | nil => exact absurd hlength (by simp)
    | cons f fs =>
      exact InOrder.read (i := slot Reader.text.orNull true f) (Json.textOrNull_takes ho)
        (ih fs (by simpa using hlength))

theorem fields_of_inOrder (fs : List Field) {d d' : Raw}
    (h : InOrder (fs.map (slot Reader.text.orNull true)) d values d')
    (hv : ∀ u ∈ values, IsValue u) : ∃ fields,
      List.Forall₂ (fun u o => Holds u (.ofOption o)) values fields ∧
        fields.length ≤ fs.length := by
  induction fs generalizing d values with
  | nil =>
    cases h with
    | done => exact ⟨[], .nil, Nat.le_refl _⟩
  | cons f fs ih =>
    cases h with
    | done => exact ⟨[], .nil, Nat.zero_le _⟩
    | @read _ _ _ _ u o values ho h =>
      obtain ⟨hu, hv⟩ := List.forall_mem_cons.mp hv
      obtain ⟨fields, hfields, hlength⟩ := ih h hv
      have hholds : Holds u (.ofOption o) := Json.textOrNull_exact.of_takes hu ho
      exact ⟨o :: fields, .cons hholds hfields, Nat.succ_le_succ hlength⟩

theorem decode_inOrder (h : ShowsInOrder s fields) (hlength : fields.length ≤ 6) :
    decode s = ofRaw (Draft.inOrder fields) := by
  obtain ⟨v, values, ht, hv, hfields⟩ := h
  have horder := inOrder_of_fields Field.all (d := Draft.none) hfields hlength
  rw [← inOrder_eq] at horder
  exact decode_of_ok ((wire_table.takes_list hv horder rfl).parse ht)

/-- **Nothing but an object or a short array of strings and `null`s is read.** All else fails to
decode, and is answered without a word to the store; but an array is read as an object that gives
its elements to the fields in order. -/
theorem decode_shapes (s : Bytes) :
    (∀ fields, fields.length ≤ 6 → ShowsInOrder s fields →
      decode s = ofRaw (Draft.inOrder fields)) ∧
    (IsObjectText s ∨ (∃ fields, fields.length ≤ 6 ∧ ShowsInOrder s fields) ∨
      ∃ reason, decode s = .error (.decode reason) ∧
        ∀ (σ : Type) (answer : (c : Call) → σ → c.Answer × σ) (store : σ) (event : EventId)
          (draw : Draw),
          (handle ⟨event, s⟩ draw).run answer store = (⟨.error (.decode reason), []⟩, store)) := by
  refine ⟨fun fields hlength h => decode_inOrder h hlength, ?_⟩
  cases hp : wire.reader.parse s with
  | error reason =>
    have hdecode := decode_of_error hp
    have hsubject : ∀ cmd : Command, cmd.payload = s → cmd.subject = .error (.decode reason) := by
      rintro cmd rfl
      exact Command.subject_of_error (.inl hdecode)
    exact .inr (.inr ⟨reason, hdecode, fun σ answer store event draw =>
      handle_run_error (hsubject ⟨event, s⟩ rfl) draw answer store⟩)
  | ok raw =>
    have hsound : ∀ i ∈ Field.all.map (slot Reader.text.orNull true), i.reader.Sound :=
      forall_slots.mpr fun _ => Json.textOrNull_exact.toSound
    rcases wire_table.shape hsound hp with hobject | ⟨v, values, d, ht, hv, horder, -⟩
    · exact .inl hobject
    · have hvalues : ∀ u ∈ values, IsValue u := by
        cases hv with
        | items _ _ hvalues =>
          intro u hu
          obtain ⟨i, hi, rfl⟩ := List.mem_map.mp hu
          exact hvalues i hi
      obtain ⟨fields, hfields, hlength⟩ := fields_of_inOrder Field.all horder hvalues
      exact .inr (.inl ⟨fields, hlength, v, values, ht, hv, hfields⟩)

theorem not_object_of_list (h : IsText v s) (hv : IsList v values) : ¬ IsObjectText s := by
  rintro ⟨v', members, h', hv'⟩
  have hlist : ∃ r, Json.skipSpace s = Json.openList :: r := by
    cases h with
    | padded hw _ =>
      cases hv with
      | items => exact ⟨_, Json.skipSpace_padded hw (by decide) _ _⟩
  have hobject : ∃ r, Json.skipSpace s = Json.openObject :: r := by
    cases h' with
    | padded hw _ =>
      cases hv' with
      | entries => exact ⟨_, Json.skipSpace_padded hw (by decide) _ _⟩
  obtain ⟨r, hr⟩ := hlist
  obtain ⟨r', hr'⟩ := hobject
  rw [hr] at hr'
  cases hr'

/-- An array of strings, as it is written, gives them to the fields in order. -/
theorem written_inOrder (texts : List String) :
    ShowsInOrder (Utf8.encodeChars (Json.writeList (texts.map Json.writeText)))
      (texts.map some) := by
  have hvalues : ∀ v ∈ texts.map Json.writeText, IsValue (Utf8.encodeChars v) := by
    intro v hv
    obtain ⟨t, -, rfl⟩ := List.mem_map.mp hv
    exact Json.value_text t
  refine ⟨_, _, Json.isText_bare _, Json.isList_written hvalues, ?_⟩
  rw [List.map_map, List.forall₂_map_left_iff, List.forall₂_map_right_iff, List.forall₂_same]
  exact fun t _ => Json.holds_text t

theorem not_object_of_inOrder (h : ShowsInOrder s fields) : ¬ IsObjectText s := by
  obtain ⟨v, values, ht, hv, -⟩ := h
  exact not_object_of_list ht hv

/-- An array of one identifier is no object, and is read as a payload that names an organization. -/
theorem array_names_organization :
    let s := Utf8.encode "[\"550e8400-e29b-41d4-a716-446655440000\"]"
    ¬ IsObjectText s ∧
      decode s = .ok ⟨"550e8400-e29b-41d4-a716-446655440000", "", "", "", "", ""⟩ := by
  have hs : Utf8.encode "[\"550e8400-e29b-41d4-a716-446655440000\"]" = Utf8.encodeChars
      (Json.writeList (["550e8400-e29b-41d4-a716-446655440000"].map Json.writeText)) := by
    decide +kernel
  have hshows := written_inOrder ["550e8400-e29b-41d4-a716-446655440000"]
  rw [hs]
  refine ⟨not_object_of_inOrder hshows, ?_⟩
  rw [decode_inOrder hshows (by decide)]
  decide +kernel

end OutboxProvisioning.Payload
