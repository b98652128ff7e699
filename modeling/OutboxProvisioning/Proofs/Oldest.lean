import Mathlib.Data.Set.Card
import OutboxProvisioning.Proofs.Progress

/-!
# What is fetched

Of the events that wait to be published the oldest are fetched, and those of one time in the order
of their identifiers. No two events have the same place in this order, so what is fetched depends on
what is stored and on nothing else: neither on how it came to be stored, nor on the order in which
a table lists it.

* `Store.IsOldest`: the oldest events that wait, at most so many.
* `Store.Sound.queue_congr`, `Store.Sound.queue_perm`: a queue depends on the stored events only.
* `fetch_oldest`: **a fetch gives the oldest events that wait**, and changes nothing.
-/

namespace OutboxProvisioning

namespace Store

variable {s s' : Store} {eventType : String} {e : Event}

/-- A stored event of a type that is pending. -/
structure Waiting (s : Store) (eventType : String) (e : Event) : Prop where
  stored : ∃ id, s.event? id = some e
  pending : e.isPending = true
  type : e.eventType = eventType

/-- **The oldest events that wait**, at most so many, oldest first. -/
structure IsOldest (s : Store) (eventType : String) (limit : Nat) (es : List Event) : Prop where
  waiting : ∀ e ∈ es, s.Waiting eventType e
  sorted : es.Pairwise fun a b => a.place < b.place
  distinct : (es.map Event.id).Nodup
  length : es.length = min limit (Set.ncard {e | s.Waiting eventType e})
  /-- Those that are left out come after all that are taken. -/
  behind : ∀ e, s.Waiting eventType e → e ∉ es → ∀ a ∈ es, a.place < e.place

theorem Sound.waiting_iff (h : s.Sound) : s.Waiting eventType e ↔ e ∈ s.queue eventType := by
  rw [h.mem_queue]
  constructor
  · rintro ⟨⟨id, he⟩, hpending, htype⟩
    obtain rfl := h.id he
    exact ⟨he, hpending, htype⟩
  · rintro ⟨he, hpending, htype⟩
    exact ⟨⟨e.id, he⟩, hpending, htype⟩

theorem Sound.waiting_ncard (h : s.Sound) (eventType : String) :
    Set.ncard {e | s.Waiting eventType e} = (s.queue eventType).length := by
  classical
  have hset : {e | s.Waiting eventType e} = ((s.queue eventType).toFinset : Set Event) := by
    ext e
    simp [h.waiting_iff]
  have hnodup : (s.queue eventType).Nodup := (h.queue_ids eventType).of_map
  rw [hset, Set.ncard_coe_finset, List.toFinset_card_of_nodup hnodup]

theorem oldest_eq (s : Store) (eventType : String) (limit : Nat) :
    s.oldest eventType limit = (s.queue eventType).take limit := rfl

/-- What stands first in the queue is the oldest that waits. -/
theorem Sound.isOldest (h : s.Sound) (eventType : String) (limit : Nat) :
    s.IsOldest eventType limit (s.oldest eventType limit) where
  waiting e he := h.waiting_iff.mpr (List.mem_of_mem_take he)
  sorted := (h.queue_sorted eventType).sublist (List.take_sublist _ _)
  distinct := (h.queue_ids eventType).sublist ((List.take_sublist _ _).map _)
  length := by
    rw [h.waiting_ncard, oldest_eq, List.length_take]
  behind e he hout a ha := by
    have hsplit : s.oldest eventType limit ++ (s.queue eventType).drop limit =
        s.queue eventType := by rw [oldest_eq, List.take_append_drop]
    have hsorted := h.queue_sorted eventType
    rw [← hsplit, List.pairwise_append] at hsorted
    have hmem := h.waiting_iff.mp he
    rw [← hsplit] at hmem
    exact hsorted.2.2 a ha e ((List.mem_append.mp hmem).resolve_left hout)

/-- Stores that hold the same events have the same queues. -/
theorem Sound.queue_congr (h : s.Sound) (h' : s'.Sound) (hsame : ∀ id, s'.event? id = s.event? id)
    (eventType : String) : s'.queue eventType = s.queue eventType := by
  refine List.Pairwise.eq_of_mem_iff (h'.queue_sorted _) (h.queue_sorted _) ?_
  intro e
  rw [h'.mem_queue, h.mem_queue, hsame]

/-- A queue does not depend on the order in which the events are listed. -/
theorem Sound.queue_perm (h : s.Sound) (hperm : s'.events.values.Perm s.events.values)
    (eventType : String) : s'.queue eventType = s.queue eventType := by
  have hqueues : (s'.queue eventType).Perm (s.queue eventType) :=
    (List.mergeSort_perm _ _).trans ((hperm.filter _).trans (List.mergeSort_perm _ _).symm)
  refine hqueues.eq_of_pairwise ?_ (queue_ordered s' eventType) (queue_ordered s eventType)
  intro a b ha hb hab hba
  -- both are stored, under one identifier
  have hstored := (h.mem_queue.mp (hqueues.mem_iff.mp ha)).1
  rw [Event.id_eq_of_place (le_antisymm hab hba), (h.mem_queue.mp hb).1] at hstored
  exact (Option.some.inj hstored).symm

theorem fetch_of_clear (h : s.faults.fetch = false) (eventType : String) (limit : Nat) :
    s.fetch eventType limit = (.ok (s.oldest eventType limit), s) := by
  rw [fetch, h]
  rfl

end Store

/-- **What a fetch gives**: the oldest of the events that wait, as many as there are up to the limit.
A store that holds the same events gives the same ones, whatever has happened to it, and in whatever
order its table lists them. -/
theorem fetch_oldest {s : Store} (hreachable : s.Reachable) (hclear : s.faults.fetch = false)
    (eventType : String) (limit : Nat) :
    ∃ es, s.fetch eventType limit = (.ok es, s) ∧ s.IsOldest eventType limit es ∧
      (∀ s' : Store, s'.Reachable → s'.faults.fetch = false →
        (∀ id, s'.event? id = s.event? id) → s'.fetch eventType limit = (.ok es, s')) ∧
      ∀ s' : Store, s'.events.values.Perm s.events.values → s'.faults.fetch = false →
        s'.fetch eventType limit = (.ok es, s') := by
  have hsound := hreachable.sound
  refine ⟨s.oldest eventType limit, Store.fetch_of_clear hclear _ _, hsound.isOldest _ _, ?_, ?_⟩
  · intro s' hreachable' hclear' hsame
    have hqueue := hsound.queue_congr hreachable'.sound hsame eventType
    rw [Store.fetch_of_clear hclear', Store.oldest_eq, hqueue, Store.oldest_eq]
  · intro s' hperm hclear'
    rw [Store.fetch_of_clear hclear', Store.oldest_eq, hsound.queue_perm hperm, Store.oldest_eq]

/-- Two events of one time, stored in either order: there is place for one, and it is the one with
the smaller identifier. -/
theorem fetch_oldest_tie :
    let low : Event := default
    let high : Event := { low with id := ⟨⟨1⟩⟩ }
    let stored := fun events : List Event =>
      (Script.steps (events.map .insert) (Script.start fun _ => default)).2.2.store
    (stored [low, high]).fetch low.eventType 1 = (.ok [low], stored [low, high]) ∧
      (stored [high, low]).fetch low.eventType 1 = (.ok [low], stored [high, low]) := by
  intro low high stored
  have hreachable : (stored [low, high]).Reachable := ⟨_, _, rfl⟩
  obtain ⟨es, hfetch, -, -, hperm⟩ := fetch_oldest hreachable rfl low.eventType 1
  have hes : es = [low] := by
    have hsorted : [low, high].Pairwise fun a b => Store.notAfter a b = true := by decide +kernel
    have hpending : (stored [low, high]).pending low.eventType = [low, high] := by decide +kernel
    have holdest : (stored [low, high]).oldest low.eventType 1 = [low] := by
      rw [Store.oldest, hpending, List.mergeSort_of_pairwise hsorted]
      rfl
    rw [Store.fetch_of_clear rfl, holdest] at hfetch
    cases hfetch
    rfl
  rw [hes] at hfetch hperm
  exact ⟨hfetch, hperm _ (List.Perm.swap _ _ _) rfl⟩

end OutboxProvisioning
