/-!
# Tables

Values under keys, each key at most once. A table remembers the order in which keys came, so
it can be listed, but nothing else depends on that order.

* `Table.find?`, `Table.insert`: one key.
* `Table.find?_insert`: what a table holds after an insertion.
-/

namespace OutboxProvisioning

/-- Replaces the value under a key, or adds the key at the end. -/
def putEntry [DecidableEq κ] (k : κ) (v : α) : List (κ × α) → List (κ × α)
  | [] => [(k, v)]
  | e :: rest => if e.1 = k then (k, v) :: rest else e :: putEntry k v rest

theorem mem_keys_putEntry [DecidableEq κ] {k k' : κ} {v : α} {l : List (κ × α)} :
    k' ∈ (putEntry k v l).map Prod.fst ↔ k' = k ∨ k' ∈ l.map Prod.fst := by
  induction l with
  | nil => simp [putEntry]
  | cons e rest ih =>
    by_cases h : e.1 = k
    · simp [putEntry, h]
    · simp only [putEntry, if_neg h, List.map_cons, List.mem_cons, ih]
      exact or_left_comm

theorem nodup_putEntry [DecidableEq κ] (k : κ) (v : α) {l : List (κ × α)}
    (h : (l.map Prod.fst).Nodup) : ((putEntry k v l).map Prod.fst).Nodup := by
  induction l with
  | nil => simp [putEntry]
  | cons e rest ih =>
    simp only [List.map_cons, List.nodup_cons] at h
    by_cases he : e.1 = k
    · simp only [putEntry, if_pos he, List.map_cons, List.nodup_cons]
      exact ⟨he ▸ h.1, h.2⟩
    · simp only [putEntry, if_neg he, List.map_cons, List.nodup_cons]
      refine ⟨fun hm => ?_, ih h.2⟩
      rcases mem_keys_putEntry.mp hm with hm | hm
      · exact he hm
      · exact h.1 hm

/-- Values under keys. -/
structure Table (κ α : Type) where
  entries : List (κ × α)
  nodup : (entries.map Prod.fst).Nodup

namespace Table

variable {κ α : Type} [DecidableEq κ]

/-- No keys. -/
def empty : Table κ α := ⟨[], List.nodup_nil⟩

instance : Inhabited (Table κ α) := ⟨empty⟩

/-- The value under a key. -/
def find? (t : Table κ α) (k : κ) : Option α :=
  (t.entries.find? fun e => e.1 = k).map Prod.snd

/-- Whether a key is there. -/
def contains (t : Table κ α) (k : κ) : Bool := (t.find? k).isSome

/-- Puts a value under a key, in place of the one before. -/
def insert (t : Table κ α) (k : κ) (v : α) : Table κ α :=
  ⟨putEntry k v t.entries, nodup_putEntry k v t.nodup⟩

/-- The values, in the order in which their keys came. -/
def values (t : Table κ α) : List α := t.entries.map Prod.snd

/-- The number of keys. -/
def size (t : Table κ α) : Nat := t.entries.length

/-- Puts all values of one table into another. -/
def insertAll (t more : Table κ α) : Table κ α :=
  more.entries.foldl (fun t e => t.insert e.1 e.2) t

/-- A table holds what was put under a key, and else what it held before. -/
theorem find?_insert (t : Table κ α) (k k' : κ) (v : α) :
    (t.insert k v).find? k' = if k' = k then some v else t.find? k' := by
  obtain ⟨l, hl⟩ := t
  simp only [insert, find?]
  clear hl
  induction l with
  | nil =>
    by_cases h : k' = k
    · simp [putEntry, h]
    · simp [putEntry, h, Ne.symm h]
  | cons e rest ih =>
    by_cases he : e.1 = k
    · by_cases h : k' = k
      · simp [putEntry, he, h]
      · have hk : ¬k = k' := fun hk => h hk.symm
        simp [putEntry, he, h, hk]
    · by_cases hek : e.1 = k'
      · have h : ¬k' = k := fun h => he (hek.trans h)
        simp [putEntry, hek]
        grind
      · simp only [putEntry, if_neg he, List.find?_cons, hek, decide_false]
        exact ih

end Table

end OutboxProvisioning
