import Mathlib.Data.List.TakeWhile
import OutboxProvisioning.Proofs.Journal
import OutboxProvisioning.Proofs.Oldest
import OutboxProvisioning.Service

/-!
# Settings that pass validation

What settings have to be like to pass, and what a consumer with such settings does on the store in
memory: it never polls in vain while there is work for it.

* `Settings.Sane`: settings that are within their bounds.
* `validate_eq_ok_iff`: **just these pass.**
* `Store.poll_fetches`: how many events a poll processes.
* `validated_polls`: **with settings that pass, every poll that finds an event waiting processes
  one at least**, and a thousand at most.
-/

namespace OutboxProvisioning

/-! ## Bounds of settings -/

namespace Text

/-- What is left of a text without the white space at its ends is empty just when there is nothing
else in it. -/
theorem trim_isEmpty_iff {s : String} :
    (trim s).isEmpty = true ↔ ∀ c ∈ s.toList, isBlank c = true := by
  rw [String.isEmpty_iff, trim, String.ofList_eq_empty_iff, trimChars, dropEnd,
    List.reverse_eq_nil_iff, List.dropWhile_eq_nil_iff]
  constructor
  · intro h
    rw [← List.dropWhile_eq_nil_iff]
    -- what is left begins with a character that is no blank
    cases hrest : s.toList.dropWhile isBlank with
    | nil => rfl
    | cons c cs =>
      have hc : isBlank c = true := h c (by simp [hrest])
      have hfirst := List.head_dropWhile_not isBlank (l := s.toList) (by simp [hrest])
      simp [hrest, hc] at hfirst
  · intro h c hc
    exact h c ((List.dropWhile_sublist _).subset (List.mem_reverse.mp hc))

end Text

namespace Settings

/-- Settings of a database that are within their bounds. -/
structure Database.Sane (d : Database) : Prop where
  address : "postgres://".toList <+: d.url.toList ∨ "postgresql://".toList <+: d.url.toList
  pool : d.minConnections ≤ d.maxConnections
  poolBound : d.maxConnections ≤ 100

/-- Settings of a consumer that are within their bounds. -/
structure Consumer.Sane (c : Consumer) : Prop where
  eventType : ∃ x ∈ c.eventType.toList, Text.isBlank x = false
  pollInterval : 1 ≤ c.pollInterval
  batchSize : 1 ≤ c.batchSize
  batchBound : c.batchSize ≤ 1000

/-- Settings of a log that it can be written with. -/
structure Logging.Sane (l : Logging) : Prop where
  level : ∃ f, Log.Filter.ofString l.level = .ok f
  format : l.stage = .production → l.format = .json

/-- **Settings that are within their bounds**, all of them. -/
structure Sane (s : Settings) : Prop where
  database : s.database.Sane
  consumer : s.consumer.Sane
  logging : s.logging.Sane

/-! ## What passes -/

theorem Database.validate_iff {d : Database} : d.validate = .ok () ↔ d.Sane := by
  have hschemes : (schemes.any fun s => s.toList.isPrefixOf d.url.toList) = true ↔
      "postgres://".toList <+: d.url.toList ∨ "postgresql://".toList <+: d.url.toList := by
    simp [schemes]
  -- an address with a scheme is not empty
  have hempty : (schemes.any fun s => s.toList.isPrefixOf d.url.toList) = true →
      d.url.isEmpty = false := by
    intro h
    by_contra hurl
    rw [Bool.not_eq_false, String.isEmpty_iff] at hurl
    rw [hurl] at h
    exact absurd h (by decide)
  unfold validate
  constructor
  · intro h
    split_ifs at h with h₁ h₂ h₃ h₄
    rw [Bool.not_eq_true, Bool.not_eq_false'] at h₂
    exact ⟨hschemes.mp h₂, Nat.le_of_not_lt h₃, Nat.le_of_not_lt h₄⟩
  · rintro ⟨haddress, hpool, hbound⟩
    have hany := hschemes.mpr haddress
    rw [if_neg (by simp [hempty hany]), if_neg (by simp [hany]), if_neg (Nat.not_lt.mpr hpool),
      if_neg (Nat.not_lt.mpr hbound)]

theorem Consumer.validate_iff {c : Consumer} : c.validate = .ok () ↔ c.Sane := by
  have htype : ¬ (Text.trim c.eventType).isEmpty = true ↔
      ∃ x ∈ c.eventType.toList, Text.isBlank x = false := by
    rw [Text.trim_isEmpty_iff]
    push Not
    simp only [ne_eq, Bool.not_eq_true]
  unfold validate
  constructor
  · intro h
    split_ifs at h with h₁ h₂ h₃ h₄
    exact ⟨htype.mp h₁, Nat.pos_of_ne_zero h₂, Nat.pos_of_ne_zero h₃, Nat.le_of_not_lt h₄⟩
  · rintro ⟨heventType, hinterval, hbatch, hbound⟩
    rw [if_neg (htype.mpr heventType), if_neg (Nat.ne_of_gt hinterval),
      if_neg (Nat.ne_of_gt hbatch), if_neg (Nat.not_lt.mpr hbound)]

theorem Logging.validate_iff {l : Logging} : l.validate = .ok () ↔ l.Sane := by
  unfold validate
  constructor
  · intro h
    cases hlevel : Log.Filter.ofString l.level with
    | error f => simp [hlevel] at h
    | ok f =>
      refine ⟨⟨f, hlevel⟩, ?_⟩
      intro hstage
      by_contra hformat
      simp [hlevel, isProduction, hstage, hformat] at h
  · rintro ⟨⟨f, hlevel⟩, hformat⟩
    have hjson : ¬ (l.isProduction && decide (l.format ≠ .json)) = true := by
      simp only [isProduction, Bool.and_eq_true, decide_eq_true_eq, not_and, not_not]
      exact hformat
    simp only [hlevel, if_neg hjson]

/-- **Just the settings that are within their bounds pass.** -/
theorem validate_eq_ok_iff {s : Settings} : s.validate = .ok () ↔ s.Sane := by
  have hall : s.validate = .ok () ↔ s.database.validate = .ok () ∧ s.consumer.validate = .ok () ∧
      s.logging.validate = .ok () := by
    unfold validate
    cases s.database.validate <;> cases s.consumer.validate <;> simp [bind, Except.bind]
  rw [hall, Database.validate_iff, Consumer.validate_iff, Logging.validate_iff]
  exact ⟨fun ⟨hd, hc, hl⟩ => ⟨hd, hc, hl⟩, fun h => ⟨h.database, h.consumer, h.logging⟩⟩

end Settings

/-! ## Polls -/

/-- A poll that can fetch processes the events at the head of the queue, as many as its batch has
room for. -/
theorem Store.poll_fetches {s : Store} (hclear : s.faults.fetch = false) (config : ConsumerConfig)
    (draws : Nat → Draw) : ∃ r, (backend.poll config draws s).result = .ok r ∧
      r.outcomes.map EventOutcome.eventId =
        ((s.queue config.eventType).take config.batchSize).map Event.id := by
  rw [poll_fetched, fetch_of_clear hclear, oldest_eq]
  exact ⟨_, rfl, backend.process_ids draws 0 _ s⟩

/-- **Settings that pass let a consumer work.** Settings pass just when they are within their
bounds; that there may be a connection at all is none of these. With settings that pass, a poll of
the store in memory that can fetch gives a report, which is on a thousand events at most, and on one
at least if an event of the type waits when the poll begins. -/
theorem validated_polls (s : Settings) :
    (s.validate = .ok () ↔ s.Sane) ∧
      (s.validate = .ok () → ∀ store : Store, store.Reachable → store.faults.fetch = false →
        ∀ draws, ∃ r, (Store.backend.poll s.consumer.toConfig draws store).result = .ok r ∧
          r.fetched ≤ 1000 ∧
          ((∃ e, store.Waiting s.consumer.eventType e) → 1 ≤ r.fetched)) := by
  refine ⟨Settings.validate_eq_ok_iff, ?_⟩
  intro hvalid store hreachable hclear draws
  obtain ⟨-, -, hbatch, hbound⟩ := (Settings.validate_eq_ok_iff.mp hvalid).consumer
  obtain ⟨r, hr, hids⟩ := Store.poll_fetches hclear s.consumer.toConfig draws
  have hfetched : r.fetched =
      min s.consumer.batchSize (store.queue s.consumer.eventType).length := by
    have hlength := congrArg List.length hids
    rwa [List.length_map, List.length_map, List.length_take] at hlength
  refine ⟨r, hr, by omega, ?_⟩
  rintro ⟨e, he⟩
  have hqueue : 0 < (store.queue s.consumer.eventType).length :=
    List.length_pos_of_mem (hreachable.sound.waiting_iff.mp he)
  omega

/-- Settings of production, with a text for each directive of the filter. -/
theorem Settings.sane_production (d : Settings.Database) (hd : d.Sane) (c : Settings.Consumer)
    (hc : c.Sane) : Settings.Sane ⟨d, c, ⟨.production, "info", .json⟩⟩ := by
  have hparts : "info".splitOn "," = ["info"] := by
    rw [String.splitOn, if_neg (by decide)]
    -- none of its four letters is a comma
    iterate 4
      rw [String.splitOnAux, if_neg (by decide), if_neg (by decide)]
    rw [String.splitOnAux, if_pos (by decide)]
    decide
  have hlevel : (Log.Filter.ofString "info").isOk = true := by
    rw [Log.Filter.ofString, hparts]
    decide +kernel
  refine ⟨hd, hc, ?_, fun _ => rfl⟩
  cases h : Log.Filter.ofString "info" with
  | ok f => exact ⟨f, rfl⟩
  | error f => simp [h, Except.isOk, Except.toBool] at hlevel

/-- A batch of one, with two events waiting. -/
theorem validated_polls_one :
    let s : Settings := ⟨{ Settings.Database.standard with url := "postgres://localhost/billing" },
      { Settings.Consumer.standard with batchSize := 1 }, ⟨.production, "info", .json⟩⟩
    let e : Event := { (default : Event) with eventType := organizationCreated }
    let store := (Script.steps [.insert e, .insert { e with id := ⟨⟨1⟩⟩ }]
      (Script.start fun _ => default)).2.2.store
    s.validate = .ok () ∧ store.Waiting s.consumer.eventType e ∧
      ∃ r, (Store.backend.poll s.consumer.toConfig (fun _ => default) store).result = .ok r ∧
        r.fetched ≤ 1000 ∧ 1 ≤ r.fetched := by
  intro s e store
  have hdatabase : s.database.Sane := Settings.Database.validate_iff.mp (by decide +kernel)
  have hconsumer : s.consumer.Sane := Settings.Consumer.validate_iff.mp (by decide +kernel)
  have hvalid : s.validate = .ok () :=
    (validated_polls s).1.mpr (Settings.sane_production _ hdatabase _ hconsumer)
  have hwaiting : store.Waiting s.consumer.eventType e := ⟨⟨e.id, by decide +kernel⟩, rfl, rfl⟩
  have hreachable : store.Reachable := ⟨_, _, rfl⟩
  obtain ⟨r, hr, hbound, hone⟩ := (validated_polls s).2 hvalid store hreachable rfl fun _ => default
  exact ⟨hvalid, hwaiting, r, hr, hbound, hone ⟨e, hwaiting⟩⟩

/-- A pool that can hold no connection passes, and nobody ever connects with it. -/
theorem validate_without_connections :
    let d : Settings.Database := { Settings.Database.standard with
      url := "postgres://localhost/billing"
      minConnections := 0
      maxConnections := 0 }
    let s : Settings := ⟨d, .standard, ⟨.production, "info", .json⟩⟩
    s.validate = .ok () ∧ ¬ 1 ≤ s.database.maxConnections ∧
      ∀ (ω : Type) (host : Service.Host ω), (Service.connect host s.database).result =
        .error (Service.connectFailed .noConnection) := by
  intro d s
  have hdatabase : d.Sane := Settings.Database.validate_iff.mp (by decide +kernel)
  have hconsumer : s.consumer.Sane := Settings.Consumer.validate_iff.mp (by decide +kernel)
  have hvalid : s.validate = .ok () :=
    Settings.validate_eq_ok_iff.mpr (Settings.sane_production _ hdatabase _ hconsumer)
  have haddress : (Sql.Address.check d.url).2 = none := by decide +kernel
  refine ⟨hvalid, by decide, ?_⟩
  intro ω host
  change (Service.connect host d).result = _
  rw [Service.connect]
  simp only [haddress]
  rfl

end OutboxProvisioning
