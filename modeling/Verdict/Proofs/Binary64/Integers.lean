import Verdict.Proofs.Binary64.Rounding

set_option autoImplicit false

namespace Verdict.Binary64

theorem exists_units {n : Nat} (small : n < 2 * binade) :
    ∃ rank ≤ infiniteRank, units rank = n * twoTo 1074 := by
  rcases Nat.eq_zero_or_pos n with rfl | positive
  · exact ⟨0, Nat.zero_le _, by rw [units_of_le (Nat.zero_le _), Nat.zero_mul]⟩
  · have narrow : Nat.log2 n ≤ 52 := Nat.le_of_lt_succ ((Nat.log2_lt positive.ne').mpr small)
    have lower : twoTo (Nat.log2 n) ≤ n := Nat.log2_self_le positive.ne'
    have upper : n < twoTo (Nat.log2 n + 1) := Nat.lt_log2_self
    generalize Nat.log2 n = width at *
    -- the significand is brought to all its 53 bits
    obtain ⟨rest, places⟩ : ∃ rest, 52 = width + rest := ⟨52 - width, by omega⟩
    have whole : binade = twoTo width * twoTo rest := by
      rw [← twoTo_add, ← places]
      rfl
    have full : binade ≤ n * twoTo rest := by
      rw [whole]
      exact Nat.mul_le_mul_right _ lower
    have fits : n * twoTo rest < 2 * binade := by
      rw [whole, ← Nat.mul_assoc, ← twoTo_succ]
      exact Nat.mul_lt_mul_of_pos_right upper (twoTo_pos _)
    have moved : Moved (1022 + width) (n * twoTo rest) := ⟨fits.le, fun _ => full⟩
    refine ⟨_, ?_, moved.units_eq.trans ?_⟩
    · unfold infiniteRank binade at *
      omega
    · have level : rest + (1022 + width) = 1074 := by omega
      rw [Nat.mul_assoc, ← twoTo_add, level]

theorem units_ofNat {n : Nat} (small : n ≤ 2 * binade) :
    units (ofNat n).rank = n * twoTo 1074 := by
  rcases small.eq_or_lt with rfl | small
  · decide +kernel
  · obtain ⟨rank, bounded, exact⟩ := exists_units small
    have nearest : nearestRank (n * twoTo 1074) 1 = rank := by
      rw [← exact, ← Nat.mul_one (units rank)]
      exact nearestRank_units Nat.one_pos rank
    rw [ofNat, ofRatio, ofUnits_eq false nearest bounded, exact]

theorem ofNat_mono {m n : Nat} (less : m ≤ n) : (ofNat m).rank ≤ (ofNat n).rank :=
  min_le_min_right _ (nearestRank_mono Nat.one_pos Nat.one_pos
    (Nat.mul_le_mul_right 1 (Nat.mul_le_mul_right _ less)))

theorem ofNat_strictMono {m n : Nat} (less : m < n) (small : n ≤ 2 * binade) :
    (ofNat m).rank < (ofNat n).rank := by
  apply units_strictMono.lt_iff_lt.mp
  rw [units_ofNat small, units_ofNat (less.le.trans small)]
  exact Nat.mul_lt_mul_of_pos_right less (twoTo_pos _)

section Signed

variable {a b : Int}

theorem key_ofInt (i : Int) :
    (ofInt i).key = if i < 0 then -((ofNat i.natAbs).rank : Int) else (ofNat i.natAbs).rank := by
  have sign : (ofInt i).negative = decide (i < 0) := rfl
  have magnitude : (ofInt i).rank = (ofNat i.natAbs).rank := rfl
  simp only [key, sign, magnitude, decide_eq_true_eq]

theorem key_ofInt_mono (less : a ≤ b) : (ofInt a).key ≤ (ofInt b).key := by
  have up (further : a.natAbs ≤ b.natAbs) := ofNat_mono further
  have down (closer : b.natAbs ≤ a.natAbs) := ofNat_mono closer
  rw [key_ofInt, key_ofInt]
  split <;> split <;> omega

theorem key_ofInt_strictMono (less : a < b) (ha : a.natAbs ≤ 2 * binade) (hb : b.natAbs ≤ 2 * binade) :
    (ofInt a).key < (ofInt b).key := by
  have up (further : a.natAbs < b.natAbs) := ofNat_strictMono further hb
  have down (closer : b.natAbs < a.natAbs) := ofNat_strictMono closer ha
  rw [key_ofInt, key_ofInt]
  split <;> split <;> try omega
  -- only zero is not apart from zero
  next negative _ =>
    have some := ofNat_strictMono (m := 0) (n := a.natAbs) (by omega) ha
    omega

theorem compare_key_ofInt (ha : a.natAbs ≤ 2 * binade) (hb : b.natAbs ≤ 2 * binade) :
    compare (ofInt a).key (ofInt b).key = compare a b := by
  rcases lt_trichotomy a b with less | rfl | greater
  · rw [compare_lt_iff_lt.mpr less, compare_lt_iff_lt.mpr (key_ofInt_strictMono less ha hb)]
  · rw [compare_eq_iff_eq.mpr rfl, compare_eq_iff_eq.mpr rfl]
  · rw [compare_gt_iff_gt.mpr greater, compare_gt_iff_gt.mpr (key_ofInt_strictMono greater hb ha)]

end Signed

end Verdict.Binary64
