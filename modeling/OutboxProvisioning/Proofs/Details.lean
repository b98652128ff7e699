import Mathlib.Data.List.Basic
import Mathlib.Data.List.Induction
import Mathlib.Data.List.Nodup
import Mathlib.Data.Prod.Lex
import OutboxProvisioning.DomainError
import OutboxProvisioning.Proofs.Utf8.Order

/-!
# The details of an error

Details are given one after another, and a name can be given again and again. What an error shows in
the end is the last value of each name, in the order of the octets of the names; nothing else of
what was given can be told from its text.

* `mem_putDetail`, `increasing_putDetail`: what one more detail does.
* `DomainError.lists_details`: an error has the last value of each name, and nothing else.
* `Lists.sort`: in whatever order these are listed, they are shown in one order.
* `DomainError.text_canonical`: **the text of an error depends on the last values alone.**
-/

namespace OutboxProvisioning

/-- In strictly increasing order of the names. -/
abbrev Increasing (details : List (String × String)) : Prop :=
  details.Pairwise fun a b => a.1 < b.1

/-- The last value that is given to a name. -/
def lastValue? (given : List (String × String)) (name : String) : Option String :=
  (given.filter fun d => d.1 = name).getLast?.map Prod.snd

/-- Names with their last values, each name once, in any order. -/
structure Lists (entries given : List (String × String)) : Prop where
  once : (entries.map Prod.fst).Nodup
  last : ∀ name value, (name, value) ∈ entries ↔ lastValue? given name = some value

/-- The order in which details are shown: by the octets of the names, then of the values. -/
def detailLE (a b : String × String) : Bool :=
  if a.1 = b.1 then Utf8.encode a.2 ≤ Utf8.encode b.2 else Utf8.encode a.1 < Utf8.encode b.1

/-- An error to which details are added one after another. -/
def DomainError.withDetails (e : DomainError) (given : List (String × String)) : DomainError :=
  given.foldl (fun e d => e.withDetail d.1 d.2) e

variable {l l' entries entries' given given' : List (String × String)} {name value : String}

/-! ### One more detail -/

theorem mem_of_putDetail {d : String × String} (h : d ∈ putDetail name value l) :
    d = (name, value) ∨ d ∈ l := by
  fun_induction putDetail name value l with
  | case1 => exact .inl (List.mem_singleton.mp h)
  | case2 v rest =>
    rcases List.mem_cons.mp h with h | h
    · exact .inl h
    · exact .inr (List.mem_cons_of_mem _ h)
  | case3 k v rest hne hlt => exact List.mem_cons.mp h
  | case4 k v rest hne hlt ih =>
    rcases List.mem_cons.mp h with h | h
    · exact .inr (h ▸ List.mem_cons_self)
    · exact (ih h).imp_right (List.mem_cons_of_mem _)

/-- A detail keeps the order of the names. -/
theorem increasing_putDetail (h : Increasing l) (name value : String) :
    Increasing (putDetail name value l) := by
  fun_induction putDetail name value l with
  | case1 => exact List.pairwise_singleton _ _
  | case2 v rest => exact List.pairwise_cons.mpr (List.pairwise_cons.mp h)
  | case3 k v rest hne hlt =>
    refine List.pairwise_cons.mpr ⟨?_, h⟩
    intro d hd
    rcases List.mem_cons.mp hd with rfl | hd
    · exact hlt
    · exact hlt.trans ((List.pairwise_cons.mp h).1 d hd)
  | case4 k v rest hne hlt ih =>
    obtain ⟨hk, hrest⟩ := List.pairwise_cons.mp h
    refine List.pairwise_cons.mpr ⟨?_, ih hrest⟩
    intro d hd
    rcases mem_of_putDetail hd with rfl | hd
    · exact lt_of_le_of_ne (not_lt.mp hlt) (Ne.symm hne)
    · exact hk d hd

/-- Behind a detail come only later names. -/
theorem Increasing.not_mem {d : String × String} (h : Increasing (d :: l)) (hname : name ≤ d.1) :
    (name, value) ∉ l :=
  fun hm => absurd ((List.pairwise_cons.mp h).1 _ hm) (not_lt.mpr hname)

/-- **A detail gives its name a value**, and leaves the others. -/
theorem mem_putDetail (h : Increasing l) {k v : String} :
    (k, v) ∈ putDetail name value l ↔ if name = k then value = v else (k, v) ∈ l := by
  fun_induction putDetail name value l with
  | case1 => by_cases hk : name = k <;> simp [hk, eq_comm]
  | case2 v' rest =>
    by_cases hk : name = k
    · subst hk
      simp [h.not_mem le_rfl, eq_comm]
    · simp [hk, Ne.symm hk]
  | case3 k' v' rest hne hlt =>
    by_cases hk : name = k
    · subst hk
      -- the name is smaller than all others, so it had no value before
      simp [h.not_mem hlt.le, hne, eq_comm]
    · simp [hk, Ne.symm hk]
  | case4 k' v' rest hne hlt ih =>
    rw [List.mem_cons, ih (List.pairwise_cons.mp h).2]
    by_cases hk : name = k
    · subst hk
      simp [hne]
    · simp [hk]

theorem lastValue?_append (given : List (String × String)) (d : String × String) (name : String) :
    lastValue? (given ++ [d]) name = if d.1 = name then some d.2 else lastValue? given name := by
  by_cases h : d.1 = name <;> simp [lastValue?, h]

/-! ### All details -/

namespace DomainError

theorem withDetails_append (e : DomainError) (given : List (String × String))
    (d : String × String) :
    e.withDetails (given ++ [d]) = (e.withDetails given).withDetail d.1 d.2 := by
  simp [withDetails]

/-- Details change neither the code nor the message. -/
theorem withDetails_frame (e : DomainError) (given : List (String × String)) :
    e.withDetails given = { e with details := (e.withDetails given).details } := by
  induction given using List.reverseRecOn with
  | nil => rfl
  | append_singleton given d ih =>
    rw [withDetails_append, ih]
    rfl

variable (code : ErrorCode) (message : String)

theorem increasing_details (given : List (String × String)) :
    Increasing ((plain code message).withDetails given).details := by
  induction given using List.reverseRecOn with
  | nil => exact List.Pairwise.nil
  | append_singleton given d ih =>
    rw [withDetails_append]
    exact increasing_putDetail ih d.1 d.2

/-- **An error has the last value of each name**, and nothing else. -/
theorem lists_details (given : List (String × String)) :
    Lists ((plain code message).withDetails given).details given := by
  refine ⟨?_, ?_⟩
  · exact List.pairwise_map.mpr ((increasing_details code message given).imp fun hlt => hlt.ne)
  · intro name value
    induction given using List.reverseRecOn with
    | nil => simp [withDetails, plain, lastValue?]
    | append_singleton given d ih =>
      rw [withDetails_append, lastValue?_append]
      refine (mem_putDetail (increasing_details code message given)).trans ?_
      split
      · exact Option.some_inj.symm
      · exact ih

end DomainError

/-- No detail is without an entry. -/
theorem Lists.eq_nil_iff (h : Lists entries given) : entries = [] ↔ given = [] := by
  constructor
  · intro hentries
    rcases List.eq_nil_or_concat given with hgiven | ⟨before, d, rfl⟩
    · exact hgiven
    · have hd := (h.last d.1 d.2).mpr (by simp [lastValue?_append])
      rw [hentries] at hd
      cases hd
  · rintro rfl
    refine List.eq_nil_iff_forall_not_mem.mpr fun d hd => ?_
    have := (h.last d.1 d.2).mp hd
    simp [lastValue?] at this

theorem detailLE_iff {a b : String × String} : detailLE a b = true ↔ toLex a ≤ toLex b := by
  rw [Prod.Lex.toLex_le_toLex, detailLE]
  split
  · simp [Utf8.encode_le_iff, *]
  · simp [Utf8.encode_lt_iff, *]

/-- Once the entries are sorted their names increase, since no two are the same. -/
theorem Lists.increasing_sort (h : Lists entries given) :
    Increasing (entries.mergeSort detailLE) := by
  have hle : (entries.mergeSort detailLE).Pairwise fun a b => detailLE a b = true := by
    refine List.pairwise_mergeSort ?_ ?_ _
    · intro a b c hab hbc
      exact detailLE_iff.mpr ((detailLE_iff.mp hab).trans (detailLE_iff.mp hbc))
    · intro a b
      rcases le_total (toLex a) (toLex b) with hab | hba
      · simp [detailLE_iff.mpr hab]
      · simp [detailLE_iff.mpr hba]
  have hne : (entries.mergeSort detailLE).Pairwise fun a b => a.1 ≠ b.1 := by
    refine List.pairwise_map.mp ?_
    exact ((List.mergeSort_perm entries detailLE).map Prod.fst).nodup_iff.mpr h.once
  refine (hle.and hne).imp ?_
  rintro a b ⟨hab, hnames⟩
  exact (Prod.Lex.toLex_le_toLex.mp (detailLE_iff.mp hab)).resolve_right fun heq => hnames heq.1

theorem Increasing.eq_of_perm (h : Increasing l) (h' : Increasing l') (hp : l.Perm l') : l = l' :=
  hp.eq_of_pairwise (fun _ _ _ _ hab hba => absurd hba hab.asymm) h h'

theorem Lists.perm (h : Lists entries given) (h' : Lists entries' given) :
    entries.Perm entries' := by
  refine (List.perm_ext_iff_of_nodup h.once.of_map h'.once.of_map).mpr ?_
  rintro ⟨name, value⟩
  rw [h.last, h'.last]

/-- **In whatever order the details are listed, they are shown in one order.** -/
theorem Lists.sort (h : Lists entries given) (h' : Lists l given) (hl : Increasing l) :
    entries.mergeSort detailLE = l :=
  h.increasing_sort.eq_of_perm hl ((List.mergeSort_perm entries detailLE).trans (h.perm h'))

theorem Lists.congr (h : Lists entries given)
    (hlast : ∀ name, lastValue? given name = lastValue? given' name) : Lists entries given' :=
  ⟨h.once, fun name value => by rw [h.last, hlast]⟩

namespace DomainError

/-- Errors with the same last values are the same. -/
theorem withDetails_congr (code : ErrorCode) (message : String)
    (hlast : ∀ name, lastValue? given name = lastValue? given' name) :
    (plain code message).withDetails given = (plain code message).withDetails given' := by
  have hlists := (lists_details code message given).congr hlast
  have hdetails := (increasing_details code message given).eq_of_perm
    (increasing_details code message given') (hlists.perm (lists_details code message given'))
  rw [withDetails_frame, hdetails]
  exact (withDetails_frame _ given').symm

/-- **The text of an error depends on the last values alone.** It is the code and the message, with
every detail once if there are any, in the order of the octets of their names; and it does not
matter in which order they are listed before they are sorted. -/
theorem text_canonical (code : ErrorCode) (message : String) (given : List (String × String)) :
    let e := (plain code message).withDetails given
    (∀ given', (∀ name, lastValue? given' name = lastValue? given name) →
      ((plain code message).withDetails given').text = e.text) ∧
    ∃ shown, Lists shown given ∧ shown.Pairwise (fun a b => Utf8.encode a.1 < Utf8.encode b.1) ∧
      (∀ entries, Lists entries given → entries.mergeSort detailLE = shown) ∧
      e.text = "[" ++ code.name ++ "] " ++ message ++
        if given = [] then ""
        else " (" ++ ", ".intercalate (shown.map fun d => d.1 ++ "=" ++ d.2) ++ ")" := by
  intro e
  have hlists : Lists e.details given := lists_details code message given
  have hincreasing : Increasing e.details := increasing_details code message given
  refine ⟨?_, e.details, hlists, ?_, ?_, ?_⟩
  · intro given' hlast
    rw [withDetails_congr code message hlast]
  · exact hincreasing.imp Utf8.encode_lt_iff.mpr
  · exact fun entries h => h.sort hlists hincreasing
  · have he : e = ⟨code, message, e.details⟩ := withDetails_frame (plain code message) given
    rw [he]
    simp only [text, detailsText, List.isEmpty_iff, hlists.eq_nil_iff]

example : ((plain .workspaceExists "Workspace exists").withDetails
    [("organization_id", "org-0"), ("event_id", "evt-1"), ("organization_id", "org-1")]).text =
    "[WORKSPACE_EXISTS] Workspace exists (event_id=evt-1, organization_id=org-1)" := by
  decide +kernel

end DomainError

end OutboxProvisioning
