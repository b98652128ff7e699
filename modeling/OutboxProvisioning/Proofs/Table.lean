import OutboxProvisioning.Table

/-!
# Tables through their look-ups

What a table holds is what its look-ups give; the order of its entries plays no part.

* `find?_eq_some_iff`: a look-up finds exactly the entries.
* `find?_insertAll`: the values of the second table win.
* `countP_insert`, `size_insert_of_none`: what an insertion does to counts.
-/

namespace OutboxProvisioning.Table

variable {κ α : Type} [DecidableEq κ]

/-- What is put under a new key comes last. -/
theorem putEntry_of_not_mem {k : κ} {v : α} {l : List (κ × α)} (h : k ∉ l.map Prod.fst) :
    putEntry k v l = l ++ [(k, v)] := by
  induction l with
  | nil => rfl
  | cons e rest ih =>
    rw [List.map_cons, List.mem_cons, not_or] at h
    rw [putEntry, if_neg (Ne.symm h.1), ih h.2, List.cons_append]

theorem find?_mk_cons {e : κ × α} {rest : List (κ × α)} (h : ((e :: rest).map Prod.fst).Nodup)
    (k : κ) : (⟨e :: rest, h⟩ : Table κ α).find? k =
      if e.1 = k then some e.2 else (⟨rest, (List.nodup_cons.mp h).2⟩ : Table κ α).find? k := by
  by_cases he : e.1 = k <;> simp [find?, he]

/-- A table gives under a key exactly the value that stands there. -/
theorem find?_eq_some_iff {t : Table κ α} {k : κ} {v : α} :
    t.find? k = some v ↔ (k, v) ∈ t.entries := by
  obtain ⟨l, hl⟩ := t
  induction l with
  | nil => simp [find?]
  | cons e rest ih =>
    have hfresh := (List.nodup_cons.mp hl).1
    rw [find?_mk_cons hl]
    by_cases he : e.1 = k
    · subst he
      -- no later entry has this key
      have hrest : (e.1, v) ∉ rest := fun h => hfresh (List.mem_map.mpr ⟨_, h, rfl⟩)
      simp only [if_true, Option.some.injEq, List.mem_cons, hrest, or_false]
      exact ⟨fun h => by rw [← h], fun h => by rw [← h]⟩
    · have hne : (k, v) ≠ e := fun h => he (by rw [← h])
      simp only [he, if_false, List.mem_cons, hne, false_or]
      exact ih _

theorem contains_iff {t : Table κ α} {k : κ} : t.contains k = true ↔ ∃ v, t.find? k = some v :=
  Option.isSome_iff_exists

theorem contains_eq_false_iff {t : Table κ α} {k : κ} :
    t.contains k = false ↔ t.find? k = none := by
  simp [contains]

theorem find?_insert_self (t : Table κ α) (k : κ) (v : α) : (t.insert k v).find? k = some v := by
  rw [find?_insert, if_pos rfl]

theorem find?_insert_of_ne {t : Table κ α} {k k' : κ} {v : α} (h : k' ≠ k) :
    (t.insert k v).find? k' = t.find? k' := by
  rw [find?_insert, if_neg h]

/-- Under each key stands the value of the second table, or else that of the first. -/
theorem find?_insertAll (t more : Table κ α) (k : κ) :
    (t.insertAll more).find? k = (more.find? k).or (t.find? k) := by
  obtain ⟨l, hl⟩ := more
  induction l generalizing t with
  | nil => rfl
  | cons e rest ih =>
    have hfresh := (List.nodup_cons.mp hl).1
    have hstep : (t.insertAll ⟨e :: rest, hl⟩).find? k =
        ((⟨rest, (List.nodup_cons.mp hl).2⟩ : Table κ α).find? k).or
          ((t.insert e.1 e.2).find? k) := ih (t.insert e.1 e.2) _
    rw [hstep, find?_mk_cons hl]
    by_cases he : e.1 = k
    · subst he
      have hrest : (⟨rest, (List.nodup_cons.mp hl).2⟩ : Table κ α).find? e.1 = none := by
        rw [Option.eq_none_iff_forall_ne_some]
        intro v hv
        exact hfresh (List.mem_map.mpr ⟨_, find?_eq_some_iff.mp hv, rfl⟩)
      rw [hrest, find?_insert_self, if_pos rfl]
      rfl
    · rw [find?_insert_of_ne (Ne.symm he), if_neg he]

/-! ### Counting -/

/-- What is put in place of a value takes its place in every count. -/
theorem countP_putEntry {k : κ} {v old : α} {l : List (κ × α)} (hl : (l.map Prod.fst).Nodup)
    (h : (k, old) ∈ l) (p : α → Bool) :
    ((putEntry k v l).map Prod.snd).countP p + (if p old then 1 else 0) =
      (l.map Prod.snd).countP p + (if p v then 1 else 0) := by
  induction l with
  | nil => cases h
  | cons e rest ih =>
    obtain ⟨hfresh, hrest⟩ := List.nodup_cons.mp hl
    by_cases he : e.1 = k
    · -- the value stands here, since its key stands nowhere else
      have hold : e.2 = old := by
        rcases List.mem_cons.mp h with h | h
        · rw [← h]
        · exact absurd (List.mem_map.mpr ⟨_, h, he.symm⟩) hfresh
      rw [putEntry, if_pos he]
      simp only [List.map_cons, List.countP_cons, hold]
      omega
    · have hmem : (k, old) ∈ rest := by
        rcases List.mem_cons.mp h with h | h
        · exact absurd (by rw [← h]) he
        · exact h
      have hcount := ih hrest hmem
      rw [putEntry, if_neg he]
      simp only [List.map_cons, List.countP_cons]
      omega

theorem countP_insert {t : Table κ α} {k : κ} {v old : α} (h : t.find? k = some old)
    (p : α → Bool) : (t.insert k v).values.countP p + (if p old then 1 else 0) =
      t.values.countP p + (if p v then 1 else 0) :=
  countP_putEntry t.nodup (find?_eq_some_iff.mp h) p

theorem size_insert_of_none {t : Table κ α} {k : κ} (h : t.find? k = none) (v : α) :
    (t.insert k v).size = t.size + 1 := by
  have hfresh : k ∉ t.entries.map Prod.fst := by
    intro hk
    obtain ⟨e, he, rfl⟩ := List.mem_map.mp hk
    rw [find?_eq_some_iff.mpr he] at h
    cases h
  have hlast : (t.insert k v).entries = t.entries ++ [(k, v)] := putEntry_of_not_mem hfresh
  rw [size, hlast, List.length_append]
  rfl

end OutboxProvisioning.Table
