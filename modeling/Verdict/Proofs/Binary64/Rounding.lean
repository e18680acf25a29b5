import Mathlib.Order.Monotone.Basic
import Mathlib.Tactic.Linarith
import Mathlib.Tactic.Ring
import Verdict.Binary64.Shortest

set_option autoImplicit false

namespace Verdict.Binary64

theorem twoTo_pos (n : Nat) : 0 < twoTo n := Nat.two_pow_pos n

theorem twoTo_succ (n : Nat) : twoTo (n + 1) = 2 * twoTo n := Nat.pow_succ'

theorem twoTo_add (m n : Nat) : twoTo (m + n) = twoTo m * twoTo n := Nat.pow_add 2 m n

theorem tenTo_pos (n : Nat) : 0 < tenTo n := Nat.pow_pos (by decide)

theorem tenTo_add (m n : Nat) : tenTo (m + n) = tenTo m * tenTo n := Nat.pow_add 10 m n

theorem tenTo_le {m n : Nat} (less : m ≤ n) : tenTo m ≤ tenTo n :=
  Nat.pow_le_pow_right (by decide) less

section Units

theorem units_of_le {m : Nat} (small : m ≤ 2 * binade) : units m = m := by
  rcases small.eq_or_lt with rfl | small
  · decide
  · unfold units
    split
    · rfl
    · next normal =>
      have place : m / binade = 1 := by
        unfold binade at *
        omega
      have rest : binade + m % binade = m := by
        unfold binade at *
        omega
      rw [place, rest]
      exact Nat.mul_one m

/-- A rank as a significand of at most 53 bits that is moved up, and then has all 53. -/
structure Moved (shift significand : Nat) : Prop where
  small : significand ≤ 2 * binade
  full : shift ≠ 0 → binade ≤ significand

theorem Moved.units_eq {s m : Nat} (h : Moved s m) : units (s * binade + m) = m * twoTo s := by
  by_cases still : s = 0
  · rw [still, Nat.zero_mul, Nat.zero_add, units_of_le h.small]
    exact (Nat.mul_one m).symm
  · have full := h.full still
    have normal : ¬s * binade + m < binade := by omega
    rw [units, if_neg normal]
    rcases h.small.eq_or_lt with rfl | small
    · have whole : s * binade + 2 * binade = (s + 2) * binade := by ring
      rw [whole, Nat.mul_mod_left, Nat.mul_div_cancel _ (by decide)]
      change binade * (2 ^ s * 2) = 2 * binade * 2 ^ s
      ring
    · have place : (s * binade + m) / binade = s + 1 := by
        unfold binade at *
        omega
      have rest : binade + (s * binade + m) % binade = m := by
        unfold binade at *
        omega
      rw [place, rest, Nat.add_sub_cancel]

theorem Moved.still {s : Nat} (h : Moved s 0) : s = 0 := by
  by_contra up
  exact absurd (h.full up) (by decide)

theorem exists_moved (rank : Nat) : ∃ s m, Moved s m ∧ m < 2 * binade ∧ rank = s * binade + m := by
  rcases Nat.lt_or_ge rank binade with small | normal
  · exact ⟨0, rank, ⟨by omega, fun moved => absurd rfl moved⟩, by omega, by omega⟩
  · refine ⟨rank / binade - 1, binade + rank % binade, ⟨?_, fun _ => by omega⟩, ?_, ?_⟩ <;>
      unfold binade at * <;> omega

theorem units_lt_succ (rank : Nat) : units rank < units (rank + 1) := by
  obtain ⟨s, m, moved, small, rfl⟩ := exists_moved rank
  have next : Moved s (m + 1) := ⟨small, fun up => Nat.le_succ_of_le (moved.full up)⟩
  rw [Nat.add_assoc, moved.units_eq, next.units_eq]
  exact Nat.mul_lt_mul_of_pos_right (Nat.lt_succ_self m) (twoTo_pos s)

theorem units_strictMono : StrictMono units := strictMono_nat_of_lt_succ units_lt_succ

theorem units_succ_le {rank : Nat} (positive : 0 < rank) : units (rank + 1) ≤ 2 * units rank := by
  obtain ⟨s, m, moved, small, rfl⟩ := exists_moved rank
  have some : m ≠ 0 := by
    rintro rfl
    rw [moved.still] at positive
    exact absurd positive (by decide)
  have next : Moved s (m + 1) := ⟨small, fun up => Nat.le_succ_of_le (moved.full up)⟩
  rw [Nat.add_assoc, moved.units_eq, next.units_eq, ← Nat.mul_assoc]
  exact Nat.mul_le_mul_right _ (by omega)

end Units

/-- The quotient lies in the interval of a rank: between the middles to the ranks beside it, and on a
middle only if the rank is even. The quotient is in units of 2 ^ -1074. -/
structure Near (num den rank : Nat) : Prop where
  above : (units (rank - 1) + units rank) * den ≤ 2 * num
  below : 2 * num ≤ (units rank + units (rank + 1)) * den
  even : 2 * num = (units (rank - 1) + units rank) * den ∨
    2 * num = (units rank + units (rank + 1)) * den → rank % 2 = 0

section Intervals

variable {num den rank : Nat}

theorem holds_iff_near : (roundingInterval rank).holds (2 * num) den = true ↔ Near num den rank := by
  unfold Interval.holds roundingInterval
  by_cases even : rank % 2 = 0
  · simp only [even, decide_true, if_true, Bool.and_eq_true, decide_eq_true_eq]
    exact ⟨fun ⟨above, below⟩ => ⟨above, below, fun _ => even⟩,
      fun near => ⟨near.above, near.below⟩⟩
  · simp only [even, decide_false, Bool.false_eq_true, if_false, Bool.and_eq_true, decide_eq_true_eq]
    constructor
    · rintro ⟨above, below⟩
      exact ⟨above.le, below.le, fun tie => by omega⟩
    · rintro ⟨above, below, tie⟩
      exact ⟨above.lt_of_ne fun same => even (tie (.inl same.symm)),
        below.lt_of_ne fun same => even (tie (.inr same))⟩

theorem Near.le {num' den' rank' : Nat} (positive : 0 < den) (positive' : 0 < den')
    (h : Near num den rank) (h' : Near num' den' rank') (less : num * den' ≤ num' * den) :
    rank ≤ rank' := by
  by_contra greater
  -- the interval of the lesser rank ends before the other one begins, or where it begins
  have first : units rank' ≤ units (rank - 1) := units_strictMono.monotone (by omega)
  have second : units (rank' + 1) ≤ units rank := units_strictMono.monotone (by omega)
  have both : 0 < den * den' := Nat.mul_pos positive positive'
  have low : (units (rank - 1) + units rank) * (den * den') ≤ 2 * (num * den') := by
    calc (units (rank - 1) + units rank) * (den * den')
        = (units (rank - 1) + units rank) * den * den' := by ring
      _ ≤ 2 * num * den' := Nat.mul_le_mul_right den' h.above
      _ = 2 * (num * den') := by ring
  have high : 2 * (num' * den) ≤ (units rank' + units (rank' + 1)) * (den * den') := by
    calc 2 * (num' * den)
        = 2 * num' * den := by ring
      _ ≤ (units rank' + units (rank' + 1)) * den' * den := Nat.mul_le_mul_right den h'.below
      _ = (units rank' + units (rank' + 1)) * (den * den') := by ring
  have between := Nat.le_of_mul_le_mul_right (low.trans ((Nat.mul_le_mul_left 2 less).trans high)) both
  have touch : units (rank - 1) + units rank = units rank' + units (rank' + 1) := by omega
  have next : rank' = rank - 1 := units_strictMono.injective (by omega)
  rw [← touch] at high
  have here := h.even (.inl (Nat.eq_of_mul_eq_mul_right positive' (by linarith)))
  have there := h'.even (.inr (Nat.eq_of_mul_eq_mul_right positive (by rw [← touch]; linarith)))
  omega

theorem Near.unique {rank' : Nat} (positive : 0 < den) (h : Near num den rank)
    (h' : Near num den rank') : rank = rank' :=
  Nat.le_antisymm (h.le positive positive h' le_rfl) (h'.le positive positive h le_rfl)

theorem near_units (positive : 0 < den) (rank : Nat) : Near (units rank * den) den rank := by
  have before : units (rank - 1) ≤ units rank := units_strictMono.monotone (by omega)
  have after := units_lt_succ rank
  have twice : 2 * (units rank * den) = (units rank + units rank) * den := by ring
  rw [← Nat.mul_le_mul_right_iff positive] at before
  rw [← Nat.mul_lt_mul_right positive] at after
  refine ⟨?_, ?_, ?_⟩ <;> rw [twice] <;> simp only [Nat.add_mul]
  · omega
  · omega
  · rintro (low | high)
    · have same : units rank * den = units (rank - 1) * den := by omega
      have equal := units_strictMono.injective (Nat.eq_of_mul_eq_mul_right positive same)
      omega
    · omega

end Intervals

section Nearest

variable {num den : Nat}

theorem roundDiv_spec (num : Nat) (positive : 0 < den) :
    let r := roundDiv num den
    (r = num / den ∨ r = num / den + 1) ∧
      2 * (r * den) ≤ 2 * num + den ∧ 2 * num ≤ 2 * (r * den) + den ∧
      (2 * (r * den) = 2 * num + den ∨ 2 * num = 2 * (r * den) + den → r % 2 = 0) := by
  intro r
  have parts := Nat.div_add_mod num den
  have rest := Nat.mod_lt num positive
  have up : (num / den + 1) * den = den * (num / den) + den := by ring
  have down : num / den * den = den * (num / den) := Nat.mul_comm _ _
  simp only [r, roundDiv]
  split
  · rw [down]
    omega
  · split
    · rcases Nat.mod_two_eq_zero_or_one (num / den) with even | odd
      · rw [even, Nat.add_zero, down]
        omega
      · rw [odd, up]
        omega
    · rw [up]
      omega

theorem Moved.after {s m : Nat} (h : Moved s m) : (m + 1) * twoTo s ≤ units (s * binade + m + 1) := by
  rcases h.small.eq_or_lt with rfl | small
  · have whole : s * binade + 2 * binade + 1 = (s + 1) * binade + (binade + 1) := by ring
    have next : Moved (s + 1) (binade + 1) := ⟨by decide, fun _ => Nat.le_succ binade⟩
    rw [whole, next.units_eq]
    change (2 * binade + 1) * 2 ^ s ≤ (binade + 1) * (2 ^ s * 2)
    have := Nat.two_pow_pos s
    ring_nf
    omega
  · have next : Moved s (m + 1) := ⟨small, fun up => Nat.le_succ_of_le (h.full up)⟩
    rw [Nat.add_assoc, next.units_eq]

theorem Moved.before {s m : Nat} (h : Moved s m) (some : m ≠ 0) (least : s ≠ 0 → m ≠ binade) :
    units (s * binade + m - 1) = (m - 1) * twoTo s := by
  have last : Moved s (m - 1) := by
    refine ⟨by have := h.small; omega, fun up => ?_⟩
    have := h.full up
    have := least up
    omega
  rw [Nat.add_sub_assoc (by omega), last.units_eq]

theorem Moved.even {s m : Nat} (even : m % 2 = 0) : (s * binade + m) % 2 = 0 := by
  unfold binade
  omega

theorem near_nearest {s r : Nat} (positive : 0 < den) (moved : Moved s r)
    (least : 2 * (r * (den * twoTo s)) ≤ 2 * num + den * twoTo s)
    (most : 2 * num ≤ 2 * (r * (den * twoTo s)) + den * twoTo s)
    (tie : 2 * (r * (den * twoTo s)) = 2 * num + den * twoTo s ∨
      2 * num = 2 * (r * (den * twoTo s)) + den * twoTo s → r % 2 = 0)
    (first : s ≠ 0 → r = binade → r * (den * twoTo s) ≤ num) :
    Near num den (s * binade + r) := by
  have here : units (s * binade + r) * den = r * (den * twoTo s) := by
    rw [moved.units_eq]
    ring
  have after : r * (den * twoTo s) + den * twoTo s ≤ units (s * binade + r + 1) * den := by
    refine Nat.le_trans (Nat.le_of_eq ?_) (Nat.mul_le_mul_right den moved.after)
    ring
  have below : (units (s * binade + r - 1) + units (s * binade + r)) * den ≤ 2 * num ∧
      (2 * num = (units (s * binade + r - 1) + units (s * binade + r)) * den →
        (s * binade + r) % 2 = 0) := by
    rw [Nat.add_mul, here]
    by_cases none : s * binade + r = 0
    · rw [none]
      have zero : r = 0 := by omega
      rw [zero]
      simp [units_of_le]
    · have down := Nat.mul_lt_mul_of_pos_right (units_lt_succ (s * binade + r - 1)) positive
      rw [Nat.sub_add_cancel (by omega), here] at down
      -- below the least significand of a binade the ranks lie half as far apart
      by_cases lowest : s ≠ 0 ∧ r = binade
      · have := first lowest.1 lowest.2
        omega
      · have some : r ≠ 0 := by
          rintro rfl
          exact none (by rw [moved.still, Nat.zero_mul])
        have before : units (s * binade + r - 1) * den + den * twoTo s = r * (den * twoTo s) := by
          rw [moved.before some fun up same => lowest ⟨up, same⟩]
          obtain ⟨p, rfl⟩ : ∃ p, r = p + 1 := ⟨r - 1, by omega⟩
          rw [Nat.add_sub_cancel]
          ring
        exact ⟨by omega, fun same => Moved.even (tie (.inl (by omega)))⟩
  refine ⟨below.1, ?_, ?_⟩
  · rw [Nat.add_mul, here]
    omega
  · rintro (low | high)
    · exact below.2 low
    · rw [Nat.add_mul, here] at high
      exact Moved.even (tie (.inr (by omega)))

theorem near_nearestRank (num : Nat) (positive : 0 < den) : Near num den (nearestRank num den) := by
  unfold nearestRank
  dsimp only
  generalize shift : Nat.log2 (num / den) - 52 = s
  have scaled : 0 < den * twoTo s := Nat.mul_pos positive (twoTo_pos s)
  have quotient : num / (den * twoTo s) = num / den / twoTo s := (Nat.div_div_eq_div_mul _ _ _).symm
  obtain ⟨choice, least, most, tie⟩ := roundDiv_spec num scaled
  have upper : num / (den * twoTo s) < 2 * binade := by
    rw [quotient, Nat.div_lt_iff_lt_mul (twoTo_pos s)]
    have wide : num / den < 2 ^ (Nat.log2 (num / den) + 1) := Nat.lt_log2_self
    have room : 2 ^ (Nat.log2 (num / den) + 1) ≤ 2 ^ (53 + s) :=
      Nat.pow_le_pow_right (by decide) (by omega)
    rw [Nat.pow_add 2 53 s] at room
    exact wide.trans_le room
  have lower (moved : s ≠ 0) : binade ≤ num / (den * twoTo s) := by
    rw [quotient, Nat.le_div_iff_mul_le (twoTo_pos s)]
    have some : num / den ≠ 0 := by
      intro none
      rw [none] at shift
      exact moved shift.symm
    have wide : 2 ^ (52 + s) ≤ num / den := by
      rw [← Nat.le_log2 some]
      omega
    rwa [Nat.pow_add 2 52 s] at wide
  have moved : Moved s (roundDiv num (den * twoTo s)) := by
    refine ⟨by omega, fun up => ?_⟩
    have := lower up
    omega
  refine near_nearest positive moved least most tie fun up same => ?_
  rw [same]
  exact (Nat.le_div_iff_mul_le scaled).mp (lower up)

/-- Rounding, said without its steps: the one rank that the quotient is near. -/
theorem nearestRank_eq_iff {rank : Nat} (positive : 0 < den) :
    nearestRank num den = rank ↔ Near num den rank := by
  constructor
  · rintro rfl
    exact near_nearestRank num positive
  · exact (near_nearestRank num positive).unique positive

theorem nearestRank_mono {num' den' : Nat} (positive : 0 < den) (positive' : 0 < den')
    (less : num * den' ≤ num' * den) : nearestRank num den ≤ nearestRank num' den' :=
  (near_nearestRank num positive).le positive positive' (near_nearestRank num' positive') less

theorem nearestRank_congr {num' den' : Nat} (positive : 0 < den) (positive' : 0 < den')
    (same : num * den' = num' * den) : nearestRank num den = nearestRank num' den' :=
  Nat.le_antisymm (nearestRank_mono positive positive' same.le)
    (nearestRank_mono positive' positive same.ge)

theorem Near.congr {num' den' rank : Nat} (positive : 0 < den) (positive' : 0 < den')
    (same : num * den' = num' * den) : Near num den rank ↔ Near num' den' rank := by
  rw [← nearestRank_eq_iff positive, ← nearestRank_eq_iff positive',
    nearestRank_congr positive positive' same]

theorem Near.toward {num' rank : Nat} (positive : 0 < den) (h : Near num den rank)
    (between : num ≤ num' ∧ num' ≤ units rank * den ∨ units rank * den ≤ num' ∧ num' ≤ num) :
    Near num' den rank := by
  have here := near_nearestRank num' positive
  have center := near_units positive rank
  have scaled {a b : Nat} (less : a ≤ b) : a * den ≤ b * den := Nat.mul_le_mul_right den less
  suffices nearestRank num' den = rank from this ▸ here
  rcases between with ⟨low, high⟩ | ⟨low, high⟩
  · exact Nat.le_antisymm (here.le positive positive center (scaled high))
      (h.le positive positive here (scaled low))
  · exact Nat.le_antisymm (here.le positive positive h (scaled high))
      (center.le positive positive here (scaled low))

theorem nearestRank_units (positive : 0 < den) (rank : Nat) :
    nearestRank (units rank * den) den = rank :=
  (nearestRank_eq_iff positive).mpr (near_units positive rank)

theorem ofUnits_eq {rank : Nat} (negative : Bool) (nearest : nearestRank num den = rank)
    (bounded : rank ≤ infiniteRank) : ofUnits negative num den = ⟨negative, rank, bounded⟩ := by
  subst nearest
  simp only [ofUnits, Nat.min_eq_left bounded]

end Nearest

end Verdict.Binary64
