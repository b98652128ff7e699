import Mathlib.Algebra.Group.Int.Defs
import Mathlib.Algebra.Group.Nat.Defs
import OutboxProvisioning.Instant

/-!
# Instants so many seconds later

Seconds are added to an instant as a number of 64 bits, which is read with a sign. Up to `2 ^ 63`
the sum is the instant so many seconds later, and there is none just when that lies beyond the last
second that can be represented. From `2 ^ 63` on the number counts as a negative one, and the
instant moves back.

* `seconds_mem`, `eq_of_seconds`, `compareTo_eq_lt_iff`: seconds and nanoseconds place an instant.
* `ofSeconds?_eq_some_iff`, `ofSeconds?_eq_none_iff`: which instants there are.
* `plusSeconds?_arrives`: **the sum is the instant as far off as the number with its sign says**.
* `plusSeconds_moves`: what follows for the order in time and for sums of sums.
-/

namespace OutboxProvisioning.Instant

variable {t u v : Instant} {s n : Int} {nano : Nat} {a b : UInt64}

/-- The first second that can be represented. -/
abbrev firstSecond : Int := firstDay * secondsPerDay

/-- The last one. -/
abbrev lastSecond : Int := lastDay * secondsPerDay + (secondsPerDay - 1)

/-! ## Places on the line of time -/

theorem seconds_mem (t : Instant) : firstSecond ≤ t.seconds ∧ t.seconds ≤ lastSecond := by
  have hfirst := t.day_ge
  have hlast := t.day_le
  have hsecond := t.second_lt
  simp only [seconds, firstSecond, lastSecond, firstDay, lastDay, secondsPerDay] at *
  omega

/-- An instant is known by its seconds and nanoseconds. -/
theorem eq_of_seconds (hs : t.seconds = u.seconds) (hn : t.nano = u.nano) : t = u := by
  have ht := t.second_lt
  have hu := u.second_lt
  have hparts : t.day = u.day ∧ t.second = u.second := by
    simp only [seconds, secondsPerDay] at *
    omega
  cases t
  cases u
  simp_all

/-- One instant comes before another by its seconds, or within one second by its nanoseconds. -/
theorem compareTo_eq_lt_iff : t.compareTo u = .lt ↔
    t.seconds < u.seconds ∨ t.seconds = u.seconds ∧ t.nano < u.nano := by
  have ht := t.second_lt
  have hu := u.second_lt
  simp only [compareTo, Ordering.then_eq_lt, Int.compare_eq_lt, Int.compare_eq_eq,
    Nat.compare_eq_lt, Nat.compare_eq_eq, seconds, secondsPerDay] at *
  omega

/-! ## Instants of given seconds -/

theorem make?_eq_some_iff {day : Int} {second : Nat} : make? day second nano = some t ↔
    t.day = day ∧ t.second = second ∧ t.nano = nano := by
  constructor
  · intro h
    unfold make? at h
    split at h
    · cases h
      exact ⟨rfl, rfl, rfl⟩
    · cases h
  · rintro ⟨rfl, rfl, rfl⟩
    exact make?_self t

theorem ofSeconds?_eq_some_iff : ofSeconds? s nano = some t ↔ t.seconds = s ∧ t.nano = nano := by
  have ht := t.second_lt
  rw [ofSeconds?, make?_eq_some_iff]
  simp only [seconds, secondsPerDay] at *
  omega

/-- Outside leap seconds there is an instant for each second in the range. -/
theorem ofSeconds?_eq_none_iff (hnano : nano < nanosPerSecond) :
    ofSeconds? s nano = none ↔ s < firstSecond ∨ lastSecond < s := by
  have hrange : (firstDay ≤ s / secondsPerDay ∧ s / secondsPerDay ≤ lastDay ∧
      (s % secondsPerDay).toNat < secondsPerDay ∧ nano < 2 * nanosPerSecond) ↔
      firstSecond ≤ s ∧ s ≤ lastSecond := by
    simp only [firstSecond, lastSecond, firstDay, lastDay, secondsPerDay, nanosPerSecond] at *
    omega
  simp only [ofSeconds?, make?, dite_eq_right_iff, reduceCtorEq, imp_false, hrange]
  omega

/-! ## Sums -/

/-- Where one gets to in `n` seconds: to the instant that is so much later, or nowhere when that is
out of range. -/
def Arrives (t : Instant) (n : Int) : Option Instant → Prop
  | some u => u.seconds = t.seconds + n ∧ u.nano = t.nano
  | none => t.seconds + n < firstSecond ∨ lastSecond < t.seconds + n

theorem ofSeconds?_arrives (h : t.isLeap = false) (n : Int) :
    t.Arrives n (ofSeconds? (t.seconds + n) t.nano) := by
  have hnano : t.nano < nanosPerSecond := by
    rw [isLeap, decide_eq_false_iff_not] at h
    omega
  cases hu : ofSeconds? (t.seconds + n) t.nano with
  | some u => exact ofSeconds?_eq_some_iff.mp hu
  | none => exact (ofSeconds?_eq_none_iff hnano).mp hu

theorem shift?_arrives (h : t.isLeap = false) (n : Int) : t.Arrives n (t.shift? n) := by
  unfold shift?
  by_cases hn : n = 0
  · rw [if_pos hn, hn]
    exact ⟨(Int.add_zero _).symm, rfl⟩
  · rw [if_neg hn, h, if_neg Bool.false_ne_true]
    exact ofSeconds?_arrives h n

/-- **The sum is the instant as far off as the number with its sign says.** -/
theorem plusSeconds?_arrives (h : t.isLeap = false) (a : UInt64) :
    t.Arrives (signed a) (t.plusSeconds? a) := shift?_arrives h (signed a)

theorem signed_of_lt (h : a.toNat < 2 ^ 63) : signed a = a.toNat := if_pos h

theorem signed_of_ge (h : 2 ^ 63 ≤ a.toNat) : signed a = (a.toNat : Int) - 2 ^ 64 :=
  if_neg (Nat.not_lt.mpr h)

/-- Signs do not matter for sums of numbers, up to a full round of 64 bits. -/
theorem signed_add (a b : UInt64) :
    ∃ rounds : Int, signed (a + b) = signed a + signed b + rounds * 2 ^ 64 := by
  have hround (c : UInt64) : ∃ rounds : Int, signed c = c.toNat + rounds * 2 ^ 64 := by
    by_cases hc : c.toNat < 2 ^ 63
    · exact ⟨0, by rw [signed_of_lt hc]; omega⟩
    · exact ⟨-1, by rw [signed_of_ge (Nat.le_of_not_lt hc)]; omega⟩
  obtain ⟨i, hi⟩ := hround a
  obtain ⟨j, hj⟩ := hround b
  obtain ⟨k, hk⟩ := hround (a + b)
  have hsum : (a + b).toNat = (a.toNat + b.toNat) % 2 ^ 64 := UInt64.toNat_add a b
  refine ⟨k - i - j - ((a.toNat + b.toNat) / 2 ^ 64 : Nat), ?_⟩
  omega

/-- Where one gets to is outside leap seconds as well. -/
theorem Arrives.isLeap (h : t.isLeap = false) (harrives : t.Arrives n (some u)) :
    u.isLeap = false := by
  rw [Instant.isLeap, harrives.2]
  exact h

/-- The way in two parts ends where the whole way ends, since the range of instants is smaller than
a round of 64 bits. -/
theorem plusSeconds?_add (h : t.isLeap = false) (hu : t.plusSeconds? a = some u) {w : Instant}
    (hv : u.plusSeconds? b = some v) (hw : t.plusSeconds? (a + b) = some w) : v = w := by
  have hfirst := plusSeconds?_arrives h a
  rw [hu] at hfirst
  have hsecond := plusSeconds?_arrives (hfirst.isLeap h) b
  rw [hv] at hsecond
  have hwhole := plusSeconds?_arrives h (a + b)
  rw [hw] at hwhole
  obtain ⟨rounds, hrounds⟩ := signed_add a b
  refine eq_of_seconds ?_ (by rw [hsecond.2, hfirst.2, hwhole.2])
  have hvrange := v.seconds_mem
  have hwrange := w.seconds_mem
  have heq : w.seconds = v.seconds + rounds * 2 ^ 64 := by
    rw [hwhole.1, hsecond.1, hfirst.1, hrounds]
    omega
  simp only [firstSecond, lastSecond, firstDay, lastDay, secondsPerDay] at *
  omega

/-- **What adding seconds does.** Outside leap seconds, numbers below `2 ^ 63` lead to the instant
exactly so many seconds later, never to an earlier one, and there is no sum only when that instant
is out of range; a larger number does not lead to an earlier instant than a smaller one. Numbers
from `2 ^ 63` on lead back instead, by what they lack of `2 ^ 64`. Of all numbers, two that are added
one after the other lead where their sum leads. -/
theorem plusSeconds_moves (h : t.isLeap = false) :
    (∀ n : UInt64, n.toNat < 2 ^ 63 → t.Arrives n.toNat (t.plusSeconds? n) ∧
      ∀ u, t.plusSeconds? n = some u →
        u.compareTo t ≠ .lt ∧ (0 < n.toNat → t.compareTo u = .lt)) ∧
    (∀ m n : UInt64, m.toNat ≤ n.toNat → n.toNat < 2 ^ 63 → ∀ u v, t.plusSeconds? m = some u →
      t.plusSeconds? n = some v → v.compareTo u ≠ .lt) ∧
    (∀ n : UInt64, 2 ^ 63 ≤ n.toNat → t.Arrives (n.toNat - 2 ^ 64) (t.plusSeconds? n) ∧
      ∀ u, t.plusSeconds? n = some u → u.compareTo t = .lt) ∧
    ∀ a b : UInt64, ∀ u v w, t.plusSeconds? a = some u → u.plusSeconds? b = some v →
      t.plusSeconds? (a + b) = some w → v = w := by
  have hforward : ∀ n : UInt64, n.toNat < 2 ^ 63 → t.Arrives n.toNat (t.plusSeconds? n) := by
    intro n hn
    rw [← signed_of_lt hn]
    exact plusSeconds?_arrives h n
  have hbackward : ∀ n : UInt64, 2 ^ 63 ≤ n.toNat →
      t.Arrives (n.toNat - 2 ^ 64) (t.plusSeconds? n) := by
    intro n hn
    rw [← signed_of_ge hn]
    exact plusSeconds?_arrives h n
  refine ⟨fun n hn => ⟨hforward n hn, ?_⟩, ?_, fun n hn => ⟨hbackward n hn, ?_⟩, ?_⟩
  · intro u hu
    obtain ⟨hseconds, hnano⟩ : t.Arrives n.toNat (some u) := hu ▸ hforward n hn
    rw [ne_eq, compareTo_eq_lt_iff, compareTo_eq_lt_iff]
    omega
  · intro m n hmn hn u v hu hv
    obtain ⟨hseconds, hnano⟩ : t.Arrives m.toNat (some u) :=
      hu ▸ hforward m (Nat.lt_of_le_of_lt hmn hn)
    obtain ⟨hseconds', hnano'⟩ : t.Arrives n.toNat (some v) := hv ▸ hforward n hn
    rw [ne_eq, compareTo_eq_lt_iff]
    omega
  · intro u hu
    obtain ⟨hseconds, -⟩ : t.Arrives (n.toNat - 2 ^ 64) (some u) := hu ▸ hbackward n hn
    have hlt := n.toNat_lt
    rw [compareTo_eq_lt_iff]
    omega
  · exact fun a b u v w hu hv hw => plusSeconds?_add h hu hv hw

/-- Half a minute after noon, in two parts and at once, and more seconds than there are. -/
theorem plusSeconds_from_noon :
    let noon : Instant := ⟨19844, 43200, 0, by decide, by decide, by decide, by decide⟩
    let later : Instant := ⟨19844, 43230, 0, by decide, by decide, by decide, by decide⟩
    noon.isLeap = false ∧ noon.plusSeconds? 30 = some later ∧ noon.compareTo later = .lt ∧
      ((noon.plusSeconds? 10).bind fun u => u.plusSeconds? 20) = some later ∧
      noon.plusSeconds? 9223372036854775807 = none ∧
      lastSecond < noon.seconds + 9223372036854775807 := by
  intro noon later
  have hleap : noon.isLeap = false := rfl
  obtain ⟨hforward, -, -, hsums⟩ := plusSeconds_moves hleap
  have hlater : noon.plusSeconds? 30 = some later := by decide +kernel
  obtain ⟨u, hu⟩ : ∃ u, noon.plusSeconds? 10 = some u :=
    Option.isSome_iff_exists.mp (by decide +kernel)
  obtain ⟨v, hv⟩ : ∃ v, u.plusSeconds? 20 = some v := by
    have hboth : ((noon.plusSeconds? 10).bind fun u => u.plusSeconds? 20).isSome = true := by
      decide +kernel
    rw [hu] at hboth
    exact Option.isSome_iff_exists.mp hboth
  have hnowhere : noon.plusSeconds? 9223372036854775807 = none := by decide +kernel
  have hbeyond : noon.Arrives 9223372036854775807 none :=
    hnowhere ▸ (hforward 9223372036854775807 (by decide)).1
  refine ⟨hleap, hlater, ((hforward 30 (by decide)).2 later hlater).2 (by decide), ?_, hnowhere,
    hbeyond.resolve_left (by decide)⟩
  rw [hu, Option.bind_some, hv, hsums 10 20 u v later hu hv hlater]

/-- The greatest number leads one second back, and not to the instant that is so much later. -/
theorem plusSeconds_backward :
    let noon : Instant := ⟨19844, 43200, 0, by decide, by decide, by decide, by decide⟩
    let before : Instant := ⟨19844, 43199, 0, by decide, by decide, by decide, by decide⟩
    let n : UInt64 := 18446744073709551615
    noon.isLeap = false ∧ noon.plusSeconds? n = some before ∧ before.compareTo noon = .lt ∧
      ¬ noon.Arrives n.toNat (noon.plusSeconds? n) := by
  intro noon before n
  have hbefore : noon.plusSeconds? n = some before := by decide +kernel
  refine ⟨rfl, hbefore, rfl, ?_⟩
  rw [hbefore]
  rintro ⟨hseconds, -⟩
  exact absurd hseconds (by decide)

end OutboxProvisioning.Instant
