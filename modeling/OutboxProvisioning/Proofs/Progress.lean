import Mathlib.Data.List.Sort
import Mathlib.Data.Prod.Lex
import OutboxProvisioning.Proofs.Calm
import OutboxProvisioning.Proofs.Serial

/-!
# Which events repeated polls reach

Rejected events stay pending and keep their places at the head of the queue, so they narrow the
window of a poll for good. While fewer are ahead than a batch has places, some place is left and the
others come up one after another; once a batch is full of them nothing behind them is ever reached.

* `Store.Calm.queue_poll`: a poll takes the others of its batch from the queue and leaves the rest.
* `Store.Calm.published_of_polls`, `Store.Calm.stays_of_polls`: an event comes up, or never does.
* `progress_and_starvation`: **how many rejected events are ahead decides which, and how many others
  are ahead decides when.**
-/

namespace OutboxProvisioning

/-- Where an event stands: by its creation, then by its identifier. -/
def Event.place (e : Event) : Int ×ₗ Nat ×ₗ Nat ×ₗ Nat :=
  toLex (e.createdAt.day,
    toLex (e.createdAt.second, toLex (e.createdAt.nano, e.id.uuid.bits.toNat)))

theorem isLE_then_compare {α : Type} [LinearOrder α] (a b : α) (o : Ordering) :
    ((compare a b).then o).isLE = true ↔ a < b ∨ a = b ∧ o.isLE = true := by
  rcases lt_trichotomy a b with h | h | h
  · simp [compare_lt_iff_lt.mpr h, h, Ordering.then]
  · simp [h, Ordering.then]
  · simp [compare_gt_iff_gt.mpr h, h.not_gt, h.ne', Ordering.then]

theorem EventId.eq_of_bits {a b : EventId} (h : a.uuid.bits.toNat = b.uuid.bits.toNat) : a = b := by
  obtain ⟨⟨x⟩⟩ := a
  obtain ⟨⟨y⟩⟩ := b
  cases BitVec.eq_of_toNat_eq h
  rfl

theorem Event.id_eq_of_place {a b : Event} (h : a.place = b.place) : a.id = b.id := by
  simp only [place, EmbeddingLike.apply_eq_iff_eq, Prod.mk.injEq] at h
  exact EventId.eq_of_bits h.2.2.2

namespace Store

/-- Events are fetched in the order of their places. -/
theorem notAfter_iff {a b : Event} : notAfter a b = true ↔ a.place ≤ b.place := by
  have hlast (m n : Nat) : (compare m n).isLE = true ↔ m ≤ n := by
    rw [Nat.isLE_compare]
  have hids : compare a.id.uuid b.id.uuid =
      compare a.id.uuid.bits.toNat b.id.uuid.bits.toNat := rfl
  simp only [notAfter, Instant.compareTo, Ordering.then_assoc, isLE_then_compare, hids, hlast,
    Event.place, Prod.Lex.toLex_le_toLex]

variable {s : Store} {config : ConsumerConfig} {e : Event}

theorem queue_ordered (s : Store) (eventType : String) :
    (s.queue eventType).Pairwise fun a b => a.place ≤ b.place := by
  have hle : (s.queue eventType).Pairwise fun a b => notAfter a b = true := by
    refine List.pairwise_mergeSort ?_ ?_ _
    · intro a b c hab hbc
      exact notAfter_iff.mpr ((notAfter_iff.mp hab).trans (notAfter_iff.mp hbc))
    · intro a b
      rcases le_total a.place b.place with hab | hba
      · simp [notAfter_iff.mpr hab]
      · simp [notAfter_iff.mpr hba]
  exact hle.imp notAfter_iff.mp

/-- No two events of a queue have the same place. -/
theorem Sound.queue_sorted (h : s.Sound) (eventType : String) :
    (s.queue eventType).Pairwise fun a b => a.place < b.place := by
  have hne : (s.queue eventType).Pairwise fun a b => a.id ≠ b.id :=
    List.pairwise_map.mp (h.queue_ids eventType)
  refine ((queue_ordered s eventType).and hne).imp ?_
  rintro a b ⟨hab, hid⟩
  exact lt_of_le_of_ne hab fun hplace => hid (Event.id_eq_of_place hplace)

/-- What a poll leaves of a queue: the rejected events of its batch, and all behind the batch. -/
def remaining (batch : Nat) (queue : List Event) : List Event :=
  (queue.take batch).filter Event.isRejected ++ queue.drop batch

theorem remaining_sublist (batch : Nat) (q : List Event) : (remaining batch q).Sublist q := by
  have h := (List.filter_sublist (p := Event.isRejected) (l := q.take batch)).append
    (List.Sublist.refl (q.drop batch))
  rwa [List.take_append_drop] at h

/-- **A poll takes from the queue what it publishes.** -/
theorem Calm.queue_poll (h : s.Calm) (config : ConsumerConfig) (draws : Nat → Draw) :
    (backend.poll config draws s).state.queue config.eventType =
      remaining config.batchSize (s.queue config.eventType) := by
  obtain ⟨hcalm, hserves⟩ := h.poll config draws
  have hnodup := List.Nodup.of_map _ (h.sound.queue_ids config.eventType)
  have hstored : ∀ a ∈ s.queue config.eventType, s.event? a.id = some a := fun a ha =>
    (h.sound.mem_queue.mp ha).1
  refine List.Pairwise.eq_of_mem_iff (hcalm.sound.queue_sorted _)
    ((h.sound.queue_sorted _).sublist (remaining_sublist _ _)) ?_
  intro e
  rw [hcalm.sound.mem_queue]
  constructor
  · rintro ⟨hafter, hpending, htype⟩
    -- an event that was served is published now
    have hunserved : ∀ a ∈ s.oldest config.eventType config.batchSize, a.isRejected = false →
        a.id ≠ e.id := by
      intro a ha hr hid
      obtain ⟨time, htime⟩ := hserves.published a ha hr
      rw [hid, hafter] at htime
      cases htime
      simp [Event.isPending, Event.publishedFrom] at hpending
    rw [hserves.others e.id hunserved] at hafter
    have he : e ∈ s.queue config.eventType := h.sound.mem_queue.mpr ⟨hafter, hpending, htype⟩
    rw [← List.take_append_drop config.batchSize (s.queue config.eventType)] at he
    rcases List.mem_append.mp he with he | he
    · refine List.mem_append_left _ (List.mem_filter.mpr ⟨he, ?_⟩)
      by_contra hr
      exact hunserved e he (by simpa using hr) rfl
    · exact List.mem_append_right _ he
  · intro he
    have hq := (remaining_sublist _ _).subset he
    obtain ⟨hbefore, hpending, htype⟩ := h.sound.mem_queue.mp hq
    refine ⟨?_, hpending, htype⟩
    rw [hserves.others, hbefore]
    intro a ha hr hid
    -- so what is left of the queue was not served
    have hae : a = e := by
      have := hstored a (List.mem_of_mem_take ha)
      rw [hid, hbefore] at this
      exact (Option.some.inj this).symm
    subst hae
    rcases List.mem_append.mp he with he | he
    · simp [hr] at he
    · exact List.disjoint_take_drop hnodup le_rfl ha he

/-! ### How a queue moves -/

theorem remaining_append {batch : Nat} {l : List Event} (h : batch ≤ l.length) (r : List Event) :
    remaining batch (l ++ r) = remaining batch l ++ r := by
  unfold remaining
  rw [List.take_append_of_le_length h, List.drop_append_of_le_length h, List.append_assoc]

theorem remaining_rejected (batch : Nat) (l : List Event) :
    (remaining batch l).countP Event.isRejected = l.countP Event.isRejected := by
  have hsplit : (l.take batch).countP Event.isRejected + (l.drop batch).countP Event.isRejected =
      l.countP Event.isRejected := by
    rw [← List.countP_append, List.take_append_drop]
  simpa [remaining, List.countP_append, List.countP_filter] using hsplit

/-- A full batch that is not all rejected leaves fewer of the others. -/
theorem remaining_accepted {batch : Nat} {l : List Event} (h : batch ≤ l.length)
    (hfew : l.countP Event.isRejected < batch) :
    (remaining batch l).countP (!·.isRejected) < l.countP (!·.isRejected) := by
  have hsplit : (l.take batch).countP (!·.isRejected) + (l.drop batch).countP (!·.isRejected) =
      l.countP (!·.isRejected) := by
    rw [← List.countP_append, List.take_append_drop]
  have hleft : (remaining batch l).countP (!·.isRejected) =
      (l.drop batch).countP (!·.isRejected) := by
    simp [remaining, List.countP_append, List.countP_filter]
  have hall : (l.take batch).countP Event.isRejected +
      (l.take batch).countP (!·.isRejected) = batch := by
    have := List.length_eq_countP_add_countP Event.isRejected (l := l.take batch)
    simp only [List.length_take, Nat.min_eq_left h, Bool.not_eq_true, Bool.decide_eq_false] at this
    exact this.symm
  have hsome : (l.take batch).countP Event.isRejected ≤ l.countP Event.isRejected :=
    (List.take_sublist batch l).countP_le
  omega

/-- So many polls one after another, each with its own draws. -/
def polls (config : ConsumerConfig) : (Nat → Nat → Draw) → Nat → Store → Store
  | _, 0, s => s
  | draws, n + 1, s =>
    polls config (fun i => draws (i + 1)) n (backend.poll config (draws 0) s).state

theorem Calm.published_stays (h : s.Calm) (he : s.event? e.id = some e) (hp : e.isPending = false)
    (draws : Nat → Nat → Draw) (n : Nat) : (s.polls config draws n).event? e.id = some e := by
  induction n generalizing s draws with
  | zero => exact he
  | succ n ih =>
    obtain ⟨hcalm, hserves⟩ := h.poll config (draws 0)
    refine ih hcalm ((hserves.others e.id ?_).trans he) _
    -- what is served was pending
    rintro a ha - hid
    obtain ⟨hstored, hpending, -⟩ := h.sound.mem_queue.mp (List.mem_of_mem_take ha)
    rw [hid, he] at hstored
    cases hstored
    rw [hp] at hpending
    cases hpending

/-- **An event comes up** when all others ahead of it are published, if places are left. -/
theorem Calm.published_of_polls (h : s.Calm) {l r : List Event}
    (hq : s.queue config.eventType = l ++ e :: r) (hr : e.isRejected = false)
    (hfew : l.countP Event.isRejected < config.batchSize) {n : Nat}
    (hn : l.countP (!·.isRejected) < n) (draws : Nat → Nat → Draw) :
    ∃ time, (s.polls config draws n).event? e.id = some (e.publishedFrom time) := by
  induction n generalizing s l draws with
  | zero => omega
  | succ n ih =>
    obtain ⟨hcalm, hserves⟩ := h.poll config (draws 0)
    by_cases hl : l.length < config.batchSize
    · have he : e ∈ s.oldest config.eventType config.batchSize := by
        change e ∈ (s.queue config.eventType).take config.batchSize
        rw [hq, List.take_append, List.mem_append, List.take_cons (by omega)]
        exact .inr List.mem_cons_self
      obtain ⟨time, htime⟩ := hserves.published e he hr
      exact ⟨time, hcalm.published_stays (e := e.publishedFrom time) htime rfl _ n⟩
    · -- the batch ends before this event, and one of those in it is published
      have hfull : config.batchSize ≤ l.length := by omega
      have hfewer := remaining_accepted hfull hfew
      refine ih hcalm (l := remaining config.batchSize l) ?_ ?_ (by omega) _
      · rw [h.queue_poll, hq, remaining_append hfull]
      · rw [remaining_rejected]
        exact hfew

/-- **An event never comes up** behind a full batch of rejected ones. -/
theorem Calm.stays_of_polls (h : s.Calm) {l r : List Event}
    (hq : s.queue config.eventType = l ++ e :: r)
    (hmany : config.batchSize ≤ l.countP Event.isRejected) (draws : Nat → Nat → Draw) (n : Nat) :
    (s.polls config draws n).event? e.id = some e := by
  induction n generalizing s l draws with
  | zero =>
    exact (h.sound.mem_queue.mp (hq ▸ List.mem_append_right _ List.mem_cons_self)).1
  | succ n ih =>
    have hfull : config.batchSize ≤ l.length := hmany.trans List.countP_le_length
    -- none of the rejected events ahead has gone away
    refine ih (h.poll config (draws 0)).1 (l := remaining config.batchSize l) ?_ ?_ _
    · rw [h.queue_poll, hq, remaining_append hfull]
    · rw [remaining_rejected]
      exact hmany

/-- **A rejected event stays as it is**, of whatever type it is. -/
theorem Calm.rejected_stays (h : s.Calm) (he : s.event? e.id = some e) (hr : e.isRejected = true)
    (draws : Nat → Nat → Draw) (n : Nat) : (s.polls config draws n).event? e.id = some e := by
  induction n generalizing s draws with
  | zero => exact he
  | succ n ih =>
    obtain ⟨hcalm, hserves⟩ := h.poll config (draws 0)
    refine ih hcalm ((hserves.others e.id ?_).trans he) _
    -- an event that is served is not this one
    intro a ha haccepted hid
    obtain ⟨hstored, -⟩ := h.sound.mem_queue.mp (List.mem_of_mem_take ha)
    rw [hid, he] at hstored
    cases hstored
    rw [hr] at haccepted
    cases haccepted

/-- The pending events of the type of an event that stand before it. -/
def ahead (s : Store) (e : Event) : List Event :=
  (s.pending e.eventType).filter fun a => a.place < e.place

/-- What stands before an event in the queue is ahead of it. -/
theorem Sound.countP_ahead (h : s.Sound) {l r : List Event}
    (hq : s.queue e.eventType = l ++ e :: r) (p : Event → Bool) :
    (s.ahead e).countP p = l.countP p := by
  have hsorted := h.queue_sorted e.eventType
  rw [hq, List.pairwise_append, List.pairwise_cons] at hsorted
  obtain ⟨-, ⟨hbehind, -⟩, hbefore⟩ := hsorted
  have hfilter : (s.queue e.eventType).filter (fun a => a.place < e.place) = l := by
    have hl : l.filter (fun a => a.place < e.place) = l :=
      List.filter_eq_self.mpr fun a ha => by simpa using hbefore a ha e List.mem_cons_self
    have hr : (e :: r).filter (fun a => a.place < e.place) = [] := by
      refine List.filter_eq_nil_iff.mpr ?_
      intro a ha
      rcases List.mem_cons.mp ha with rfl | ha
      · simp
      · simpa using (hbehind a ha).le
    rw [hq, List.filter_append, hl, hr, List.append_nil]
  rw [← hfilter]
  exact (((List.mergeSort_perm _ notAfter).filter _).countP_eq p).symm

end Store

/-- **Progress and starvation of repeated polls** of a store that is free and without faults, with
nothing else happening. An event that is not rejected is published after as many polls as there are
such events ahead of it, and one more, if fewer rejected ones are ahead of it than a batch holds;
else it is never reached. Rejected events stay as they are. -/
theorem progress_and_starvation {s : Store} (hreachable : s.Reachable)
    (hfree : s.transaction = none) (hfaults : s.faults = .none) (config : ConsumerConfig)
    (draws : Nat → Nat → Draw) :
    (∀ e, s.event? e.id = some e → e.isPending = true → e.eventType = config.eventType →
      e.isRejected = false →
      let rejected := (s.ahead e).countP Event.isRejected
      let others := (s.ahead e).countP (!·.isRejected)
      (rejected < config.batchSize → ∀ n, others + 1 ≤ n →
        ∃ time, (s.polls config draws n).event? e.id = some (e.publishedFrom time)) ∧
      (config.batchSize ≤ rejected → ∀ n, (s.polls config draws n).event? e.id = some e)) ∧
    ∀ e, s.event? e.id = some e → e.isRejected = true → ∀ n,
      (s.polls config draws n).event? e.id = some e := by
  have hcalm : s.Calm := ⟨hreachable.sound, hfree, hfaults⟩
  refine ⟨?_, fun e he hr n => hcalm.rejected_stays he hr draws n⟩
  intro e he hpending htype hr
  have hmem : e ∈ s.queue config.eventType := hcalm.sound.mem_queue.mpr ⟨he, hpending, htype⟩
  obtain ⟨l, r, hq⟩ := List.append_of_mem hmem
  have hcount := hcalm.sound.countP_ahead (htype ▸ hq)
  simp only [hcount]
  refine ⟨?_, ?_⟩
  · intro hfew n hn
    exact hcalm.published_of_polls hq hr hfew hn draws
  · intro hmany n
    exact hcalm.stays_of_polls hq hmany draws n

/-- A rejected event ahead of another one: two places in a batch are enough for both, and with one
place the second is never reached. -/
theorem progress_past_rejected :
    let malformed : Event := { (default : Event) with eventType := organizationCreated }
    let good : Event := { malformed with
      id := ⟨⟨1⟩⟩
      payload := (("\x7b\"organization_id\":" ++
        "\"018f2b1c-7a6d-7c3e-9d2a-0d9b8c7a6e5f\"\x7d").toUTF8).toList }
    let s := (Script.steps [.insert malformed, .insert good]
      (Script.start fun _ => default)).2.2.store
    let config := ConsumerConfig.standard
    let draws := fun _ _ => default
    (∃ time, (s.polls (config.withBatchSize 2) draws 1).event? good.id =
      some (good.publishedFrom time)) ∧
    (∀ n, (s.polls (config.withBatchSize 1) draws n).event? good.id = some good) ∧
    ∀ n, (s.polls (config.withBatchSize 2) draws n).event? malformed.id = some malformed := by
  intro malformed good s config draws
  have hreachable : s.Reachable := ⟨_, _, rfl⟩
  have hpolls := fun batch =>
    progress_and_starvation hreachable rfl rfl (config.withBatchSize batch) draws
  have hgood := fun batch =>
    (hpolls batch).1 good (by decide +kernel) rfl rfl (by decide +kernel)
  exact ⟨(hgood 2).1 (by decide +kernel) 1 (by decide +kernel),
    (hgood 1).2 (by decide +kernel), (hpolls 2).2 malformed (by decide +kernel) (by decide +kernel)⟩

end OutboxProvisioning
