import OutboxProvisioning.Proofs.Finality

/-!
# What is always true of the tables

Every record stands under its own key, and an event has a time of publication exactly when it is
published, as long as that is so for the events that are inserted. What the open transaction has
staged fits the tables at every moment. No deed breaks this, also none that fails.

* `Store.Sound.event_before`: where a stored event comes from, for one deed.
* `History.event_origin`: every stored event was inserted, as it is or before its publication.
* `tables_in_order`: **the tables are in order after every script, and after every history.**
-/

namespace OutboxProvisioning

/-- The check on a row of the table of events: a time of publication goes with publication. -/
def Event.Checked (e : Event) : Prop := e.published = e.publishedAt.isSome

theorem Event.checked_publishedFrom (e : Event) (time : Instant) : (e.publishedFrom time).Checked :=
  rfl

/-- **The tables are in order**: everything stands under its own key, the writes of the open
transaction fit, and stored events pass their check if all those do that may have been inserted. -/
structure Store.Intact (s : Store) (inserted : Event → Prop) : Prop extends s.Sound where
  checked : (∀ e, inserted e → e.Checked) → ∀ {i e}, s.event? i = some e → e.Checked

/-- **Where a stored event comes from.** It was there before the deed, or the deed inserted it, or
it was there, pending, and the deed published it. -/
theorem Store.Sound.event_before {s : Store} (h : s.Sound) (d : Deed) {i : EventId} {e : Event}
    (he : (s.perform d).event? i = some e) :
    s.event? i = some e ∨ d = .insert e ∨
      ∃ e' time, s.event? i = some e' ∧ e'.isPending = true ∧ e = e'.publishedFrom time := by
  cases d with
  | insert e' =>
    cases ho : s.isOpen with
    | true => exact .inl (by simpa [Store.perform, ho] using he)
    | false =>
      have hinsert : (s.insert e').event? i = some e := by simpa [Store.perform, ho] using he
      rw [Store.event?, Store.insert, Table.find?_insert] at hinsert
      split at hinsert
      · cases hinsert
        exact .inr (.inl rfl)
      · exact .inl hinsert
  | switch point on => exact .inl he
  | call c =>
    by_cases hc : c = .commit
    · subst hc
      rw [Store.perform] at he
      rcases h.commit_cases with hsame | ⟨t, ht, -, hevents, -⟩
      · exact .inl (hsame.event i ▸ he)
      · rw [hevents] at he
        obtain ⟨e', he', rfl⟩ := Option.map_eq_some_iff.mp he
        cases hm : t.published.find? i with
        | none => exact .inl (by simpa [publishedBy, hm] using he')
        | some time =>
          -- what is staged for publication is pending
          obtain ⟨e'', he'', hpending⟩ := (h.fits ht).pending hm
          cases he'.symm.trans he''
          exact .inr (.inr ⟨e', time, he', hpending, by simp [publishedBy, hm]⟩)
    · exact .inl ((Store.answer_same hc s).event i ▸ he)

namespace History

/-- **Every stored event was inserted**, and at most its publication has come to it. -/
theorem event_origin (past : List Deed) {i : EventId} {e : Event}
    (he : (after past).store.event? i = some e) :
    .insert e ∈ past ∨
      ∃ e' time, .insert e' ∈ past ∧ e'.isPending = true ∧ e = e'.publishedFrom time := by
  induction past using List.reverseRecOn generalizing e with
  | nil => cases he
  | append_singleton past d ih =>
    have hmore : ∀ {x}, x ∈ past → x ∈ past ++ [d] := fun hx => List.mem_append_left _ hx
    rw [after_snoc] at he
    have hsound := (Vouched.after past).sound
    rcases hsound.event_before d he with hold | rfl | ⟨e₁, time, hold, hpending, rfl⟩
    · rcases ih hold with hin | ⟨e', time, hin, hpending, rfl⟩
      · exact .inl (hmore hin)
      · exact .inr ⟨e', time, hmore hin, hpending, rfl⟩
    · exact .inl (by simp)
    · -- what was published before is not pending any more, so this is its only publication
      rcases ih hold with hin | ⟨e', time', -, -, rfl⟩
      · exact .inr ⟨e₁, time, hmore hin, hpending, rfl⟩
      · cases hpending

/-- After every history the tables are in order. -/
theorem intact (past : List Deed) : (after past).store.Intact fun e => .insert e ∈ past := by
  refine ⟨(Vouched.after past).sound, ?_⟩
  intro hinserted i e he
  rcases event_origin past he with hin | ⟨e', time, -, -, rfl⟩
  · exact hinserted e hin
  · exact e'.checked_publishedFrom time

end History

open History (after)

/-- **The tables are always in order.** They are after every script, whatever it calls inside its
transactions and whatever is made to fail; and since a script is a history of deeds, they are so at
every moment of it, also between two calls of a transaction or of an event that is handled. -/
theorem tables_in_order (draws : Nat → Draw) (steps : List Step) :
    let s := (Script.steps steps (Script.start draws)).2.2.store
    let past := Script.trace steps (Script.start draws)
    s.Intact (fun e => .insert e ∈ past) ∧ s = (after past).store ∧
      (∀ e, .insert e ∈ past → .insert e ∈ steps) ∧
      ∀ history, (after history).store.Intact fun e => .insert e ∈ history := by
  intro s past
  have hs : s = (after past).store := by
    rw [History.after_store]
    exact Script.store_steps steps (Script.start draws)
  refine ⟨?_, hs, fun e => Script.insert_mem_trace, History.intact⟩
  rw [hs]
  exact History.intact past

end OutboxProvisioning
