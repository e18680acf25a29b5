import Verdict.Document.Scalar
import Verdict.Proofs.Binary64.Integers
import Verdict.Proofs.Binary64.Written

set_option autoImplicit false

namespace Verdict

namespace Document

open Binary64

theorem units_powerOfTen : ∀ k ≤ 22, units (powerOfTen k).rank = tenTo k * twoTo 1074 := by
  decide +kernel

section Exact

variable {d : Decimal} {rank : Nat}

theorem scale?_of_hits (short : d.digits < 2 * binade) (near : d.exponent.natAbs ≤ 22)
    (hits : d.Hits rank) (finite : rank < infiniteRank) (steps : Nat) :
    scale? steps (ofNat d.digits) d.exponent = some ⟨false, rank, finite.le⟩ := by
  have nearest : nearestRank d.num d.den = rank := (nearestRank_eq_iff d.den_pos).mpr hits
  have significand := units_ofNat short.le
  have power := units_powerOfTen _ near
  unfold scale?
  rw [if_pos (by omega)]
  -- both factors, or dividend and divisor, are exact, so that the one rounding is that of the decimal
  split
  · next up =>
    have places : d.exponent.natAbs = d.exponent.toNat := by omega
    have whole : d.den = 1 := by
      have none : (-d.exponent).toNat = 0 := by omega
      rw [Decimal.den, none]
    have product : nearestRank (units (ofNat d.digits).rank *
        units (powerOfTen d.exponent.natAbs).rank) (twoTo 1074) = rank := by
      rw [← nearest]
      refine nearestRank_congr (twoTo_pos _) d.den_pos ?_
      rw [significand, power, whole, places, Decimal.num]
      ring
    have value : (ofNat d.digits).mul (powerOfTen d.exponent.natAbs) = ⟨false, rank, finite.le⟩ :=
      ofUnits_eq false product finite.le
    rw [value]
    exact if_pos (decide_eq_true finite)
  · next down =>
    have places : d.exponent.natAbs = (-d.exponent).toNat := by omega
    have none : d.exponent.toNat = 0 := by omega
    have quotient : nearestRank (units (ofNat d.digits).rank * twoTo 1074)
        (units (powerOfTen d.exponent.natAbs).rank) = rank := by
      rw [← nearest]
      refine nearestRank_congr ?_ d.den_pos ?_
      · rw [power]
        exact Nat.mul_pos (tenTo_pos _) (twoTo_pos _)
      · rw [significand, power, places, Decimal.num, Decimal.den, none]
        change d.digits * twoTo 1074 * twoTo 1074 * tenTo _ = d.digits * 1 * twoTo 1074 * _
        ring
    exact congrArg some (ofUnits_eq false quotient finite.le)

end Exact

section Finite

theorem one_le_powerOfTen (k : Nat) : twoTo 1074 ≤ units (powerOfTen k).rank := by
  have one : units (ofNat 1).rank = twoTo 1074 :=
    (units_ofNat (by decide)).trans (Nat.one_mul _)
  rw [← one]
  exact units_strictMono.monotone (ofNat_mono (tenTo_pos k))

theorem rank_div_powerOfTen_le (x : Binary64) (k : Nat) : (x.div (powerOfTen k)).rank ≤ x.rank := by
  have power := one_le_powerOfTen k
  refine Nat.le_trans (Nat.min_le_left _ _) ?_
  have less : nearestRank (units x.rank * twoTo 1074) (units (powerOfTen k).rank) ≤
      nearestRank (units x.rank * 1) 1 := by
    refine nearestRank_mono ((twoTo_pos 1074).trans_le power) Nat.one_pos ?_
    rw [Nat.mul_one, Nat.mul_one]
    exact Nat.mul_le_mul_left _ power
  rwa [nearestRank_units Nat.one_pos] at less

theorem negative_div_powerOfTen (x : Binary64) (k : Nat) :
    (x.div (powerOfTen k)).negative = x.negative := Bool.bne_false _

theorem scale?_of_neg (steps : Nat) {x : Binary64} {exponent : Int} (down : exponent < 0)
    (natural : x.negative = false) :
    ∃ y, scale? steps x exponent = some y ∧ y.negative = false ∧ y.rank ≤ x.rank := by
  fun_induction scale? steps x exponent
  case case1 => omega
  case case2 => omega
  case case3 x exponent _ _ =>
    exact ⟨_, rfl, (negative_div_powerOfTen x _).trans natural, rank_div_powerOfTen_le x _⟩
  case case4 x exponent _ _ => exact ⟨x, rfl, natural, le_rfl⟩
  case case5 => omega
  case case6 x exponent _ _ _ => exact ⟨.zero, rfl, rfl, Nat.zero_le _⟩
  case case7 x exponent _ _ _ steps ih =>
    obtain ⟨y, scaled, sign, bounded⟩ :=
      ih (by omega) ((negative_div_powerOfTen x _).trans natural)
    exact ⟨y, scaled, sign, bounded.trans (rank_div_powerOfTen_le x _)⟩

theorem mul_powerOfTen_mono {m n j k : Nat} (less : m ≤ n) (lower : j ≤ k) :
    ((ofNat m).mul (powerOfTen j)).rank ≤ ((ofNat n).mul (powerOfTen k)).rank := by
  have first := units_strictMono.monotone (ofNat_mono less)
  have second := units_strictMono.monotone (ofNat_mono (tenTo_le lower))
  exact min_le_min_right _ (nearestRank_mono (twoTo_pos _) (twoTo_pos _)
    (Nat.mul_le_mul_right _ (Nat.mul_le_mul first second)))

def lastMiddle : Nat := (twoTo 54 - 3) * twoTo 970

theorem units_lastMiddle :
    units (infiniteRank - 2) + units (infiniteRank - 1) = 2 * (lastMiddle * twoTo 1074) := by
  decide +kernel

theorem mul_powerOfTen_last : ∀ k < 18,
    ((ofNat (min (tenTo 17) (lastMiddle / tenTo (291 + k)))).mul (powerOfTen (291 + k))).rank <
      infiniteRank := by
  decide +kernel

theorem power_le_of_le_lastMiddle {m k : Nat} (positive : 0 < m) (bounded : m * tenTo k ≤ lastMiddle) :
    k ≤ 308 := by
  by_contra huge
  have beyond : lastMiddle < tenTo 309 := by decide +kernel
  have power : tenTo 309 ≤ m * tenTo k :=
    (tenTo_le (by omega)).trans (Nat.le_mul_of_pos_left _ positive)
  exact absurd (power.trans bounded) (Nat.not_le.mpr beyond)

theorem mul_powerOfTen_finite {m k : Nat} (positive : 0 < m) (short : m ≤ tenTo 17)
    (bounded : m * tenTo k ≤ lastMiddle) :
    ((ofNat m).mul (powerOfTen k)).rank < infiniteRank := by
  rcases Nat.lt_or_ge k 291 with small | large
  · have room : tenTo 17 ≤ min (tenTo 17) (lastMiddle / tenTo 291) := by decide +kernel
    have last := mul_powerOfTen_last 0 (by decide)
    rw [Nat.add_zero] at last
    exact (mul_powerOfTen_mono (short.trans room) small.le).trans_lt last
  · have least := power_le_of_le_lastMiddle positive bounded
    obtain ⟨j, rfl⟩ : ∃ j, k = 291 + j := ⟨k - 291, by omega⟩
    have room : m ≤ min (tenTo 17) (lastMiddle / tenTo (291 + j)) :=
      le_min short ((Nat.le_div_iff_mul_le (tenTo_pos _)).mpr bounded)
    exact (mul_powerOfTen_mono room le_rfl).trans_lt (mul_powerOfTen_last j (by omega))

theorem scale?_of_nonneg {d : Decimal} {rank : Nat} (up : 0 ≤ d.exponent) (positive : 0 < d.digits)
    (short : d.digits ≤ tenTo 17) (hits : d.Hits rank) (finite : rank + 1 < infiniteRank)
    (steps : Nat) :
    ∃ y, scale? steps (ofNat d.digits) d.exponent = some y ∧ y.negative = false ∧
      y.rank < infiniteRank := by
  have whole : d.den = 1 := by
    have none : (-d.exponent).toNat = 0 := by omega
    rw [Decimal.den, none]
  have below : d.digits * tenTo d.exponent.toNat ≤ lastMiddle := by
    have first : units rank ≤ units (infiniteRank - 2) := units_strictMono.monotone (by omega)
    have second : units (rank + 1) ≤ units (infiniteRank - 1) := units_strictMono.monotone (by omega)
    have most := hits.below
    have middle := units_lastMiddle
    rw [whole, Nat.mul_one, Decimal.num] at most
    exact Nat.le_of_mul_le_mul_right (by omega) (twoTo_pos 1074)
  have places : d.exponent.natAbs = d.exponent.toNat := by omega
  have product := mul_powerOfTen_finite positive short below
  unfold scale?
  rw [places, if_pos (power_le_of_le_lastMiddle positive below), if_pos up]
  exact ⟨_, if_pos (decide_eq_true product), rfl, product⟩

theorem scaled_of_scale? {significand : Nat} {exponent : Int} {y : Binary64}
    (found : scale? 3 (ofNat significand) exponent = some y) (natural : y.negative = false)
    (finite : y.rank < infiniteRank) (negative : Bool) :
    scaled negative significand exponent =
      .ok (.float ⟨negative, y.rank, y.rank_le⟩ (decide_eq_true finite)) := by
  obtain ⟨sign, rank, rank_le⟩ := y
  subst natural
  have signed : (if negative then neg ⟨false, rank, rank_le⟩ else ⟨false, rank, rank_le⟩) =
      (⟨negative, rank, rank_le⟩ : Binary64) := by
    cases negative <;> rfl
  have there : isFinite ⟨negative, rank, rank_le⟩ = true := decide_eq_true finite
  simp only [scaled, found, signed, Number.ofBinary64?, there, dif_pos]

-- The greatest number is read back; the bound on the products leaves it out.
theorem scale?_written_last :
    scale? 3 (ofNat (written (infiniteRank - 1)).digits) (written (infiniteRank - 1)).exponent =
      some ⟨false, infiniteRank - 1, by decide⟩ := by
  decide +kernel

theorem rank_ofNat_finite {n : Nat} (short : n ≤ tenTo 17) : (ofNat n).rank < infiniteRank := by
  have last : (ofNat (tenTo 17)).rank < infiniteRank := by decide +kernel
  exact (ofNat_mono short).trans_lt last

theorem scale?_written {rank : Nat} (finite : rank < infiniteRank) :
    ∃ y, scale? 3 (ofNat (written rank).digits) (written rank).exponent = some y ∧
      y.negative = false ∧ y.rank < infiniteRank := by
  have short := written_digits_le finite
  rcases Int.lt_or_le (written rank).exponent 0 with down | up
  · obtain ⟨y, found, natural, less⟩ := scale?_of_neg 3 down
      (rfl : (ofNat (written rank).digits).negative = false)
    exact ⟨y, found, natural, less.trans_lt (rank_ofNat_finite short)⟩
  · by_cases last : rank + 1 = infiniteRank
    · obtain rfl : rank = infiniteRank - 1 := by omega
      exact ⟨_, scale?_written_last, rfl, finite⟩
    · have positive : 0 < rank := by
        rcases Nat.eq_zero_or_pos rank with rfl | positive
        · exact absurd up (by decide)
        · exact positive
      exact scale?_of_nonneg up (written_digits_pos positive finite) short (written_hits finite)
        (by omega) 3

end Finite

end Document

end Verdict
