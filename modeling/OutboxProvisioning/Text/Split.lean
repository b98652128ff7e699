/-!
# Cutting texts

* `splitFirst`: what comes before and after the first place where a separator stands.
* `splitLast`: what comes before and after the last place where a character stands.
-/

namespace OutboxProvisioning.Text

/-- What comes before and after the first `sep`. -/
def splitFirst (sep : List Char) : List Char → Option (List Char × List Char)
  | [] => if sep.isEmpty then some ([], []) else none
  | c :: cs =>
    if sep.isPrefixOf (c :: cs) then some ([], (c :: cs).drop sep.length)
    else (splitFirst sep cs).map fun (before, after) => (c :: before, after)

/-- What comes before and after the last `sep`. -/
def splitLast (sep : Char) : List Char → Option (List Char × List Char)
  | [] => none
  | c :: cs =>
    match splitLast sep cs with
    | some (before, after) => some (c :: before, after)
    | none => if c = sep then some ([], cs) else none

theorem splitLast_eq_none_iff {sep : Char} {cs : List Char} :
    splitLast sep cs = none ↔ sep ∉ cs := by
  induction cs with
  | nil => simp [splitLast]
  | cons c cs ih =>
    unfold splitLast
    cases h : splitLast sep cs with
    | some p => simp_all
    | none =>
      have := ih.1 h
      by_cases hc : c = sep
      · simp [hc]
      · simp [hc, Ne.symm hc, this]

/-- Nothing is lost by a cut, and the character does not stand after it. -/
theorem splitLast_eq_some {sep : Char} {cs before after : List Char}
    (h : splitLast sep cs = some (before, after)) : cs = before ++ sep :: after ∧ sep ∉ after := by
  induction cs generalizing before with
  | nil => simp [splitLast] at h
  | cons c cs ih =>
    unfold splitLast at h
    cases hs : splitLast sep cs with
    | some p =>
      simp only [hs, Option.some.injEq, Prod.mk.injEq] at h
      obtain ⟨rfl, rfl⟩ := h
      have := ih hs
      exact ⟨by rw [this.1]; simp, this.2⟩
    | none =>
      by_cases hc : c = sep
      · simp only [hs, hc, if_true, Option.some.injEq, Prod.mk.injEq] at h
        obtain ⟨rfl, rfl⟩ := h
        exact ⟨by simp [hc], splitLast_eq_none_iff.1 hs⟩
      · simp [hs, hc] at h

/-- A text is cut at the first separator if the character that it begins with does not stand
before. -/
theorem splitFirst_append {c : Char} {before : List Char} (h : c ∉ before) (sep after : List Char) :
    splitFirst (c :: sep) (before ++ (c :: sep ++ after)) = some (before, after) := by
  induction before with
  | nil => simp [splitFirst]
  | cons b before ih =>
    obtain ⟨hne, hbefore⟩ := not_or.mp (mt List.mem_cons.mpr h)
    have hafter := ih hbefore
    simp only [List.cons_append] at hafter
    simp [splitFirst, hne, hafter]

theorem splitFirst_eq_none_iff {c : Char} {cs : List Char} : splitFirst [c] cs = none ↔ c ∉ cs := by
  constructor
  · intro h hmem
    obtain ⟨before, after, rfl, hbefore⟩ := List.eq_append_cons_of_mem hmem
    have hcut := splitFirst_append hbefore [] after
    rw [List.singleton_append, h] at hcut
    cases hcut
  · intro h
    induction cs with
    | nil => rfl
    | cons x cs ih =>
      obtain ⟨hne, hcs⟩ := not_or.mp (mt List.mem_cons.mpr h)
      simp [splitFirst, hne, ih hcs]

/-- A text is cut at the last separator if none stands behind. -/
theorem splitLast_append {c : Char} {after : List Char} (h : c ∉ after) (before : List Char) :
    splitLast c (before ++ c :: after) = some (before, after) := by
  induction before with
  | nil => simp [splitLast, splitLast_eq_none_iff.mpr h]
  | cons b before ih => simp [splitLast, ih]

end OutboxProvisioning.Text
