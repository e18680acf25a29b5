import Verdict.Proofs.Binary64.Figures

set_option autoImplicit false

namespace Verdict.Binary64

section Written

variable {rank : Nat}

def Figures.written (f : Figures) : Decimal :=
  if 0 < f.point ∧ f.point ≤ 16 ∧ f.digits.length ≤ f.point.toNat then
    ⟨f.value * tenTo (f.point.toNat - f.digits.length + 1), -1⟩
  else f.decimal

def written (rank : Nat) : Decimal :=
  if rank = 0 then ⟨0, -1⟩ else (shortest .even rank).figures.written

theorem Figures.written_hits {f : Figures} : f.written.Hits rank ↔ f.decimal.Hits rank := by
  unfold Figures.written
  split
  · next integer =>
    have exponent : (-1 : Int) + (f.point.toNat - f.digits.length + 1 : Nat) =
        f.point - f.digits.length := by
      omega
    rw [Decimal.hits_shift, exponent]
    rfl
  · rfl

theorem shortest_figures (tie : Tie) (positive : 0 < rank) (finite : rank < infiniteRank) :
    (shortest tie rank).figures.Proper ∧ (shortest tie rank).figures.value ≤ tenTo 17 ∧
      (shortest tie rank).figures.point.natAbs < 1000 ∧
      (shortest tie rank).figures.decimal.Hits rank := by
  obtain ⟨places, least, most, exponent, lower, upper, hits⟩ := shortest_spec tie positive finite
  have bounds := decimalScale_bounds positive finite
  have short : (shortest tie rank).digits ≤ tenTo 17 := upper.trans (tenTo_le most)
  have width : (Nat.toDigits 10 (shortest tie rank).digits).length ≤ 18 :=
    (Nat.length_toDigits_le_iff (by decide) (by decide)).mpr (short.trans_lt (by decide))
  have point : (shortest tie rank).figures.point =
      (Nat.toDigits 10 (shortest tie rank).digits).length + (shortest tie rank).exponent := rfl
  refine ⟨Decimal.figures_proper ((tenTo_pos _).trans_le lower),
    (Decimal.figures_value_le _).trans short, ?_, Decimal.figures_hits.mpr hits⟩
  omega

theorem written_hits (finite : rank < infiniteRank) : (written rank).Hits rank := by
  unfold written
  split
  · next zero =>
    subst zero
    exact ⟨by decide +kernel, by decide +kernel, fun _ => rfl⟩
  · next some =>
    obtain ⟨-, -, -, hits⟩ := shortest_figures .even (Nat.pos_of_ne_zero some) finite
    exact Figures.written_hits.mpr hits

theorem written_digits_le (finite : rank < infiniteRank) : (written rank).digits ≤ tenTo 17 := by
  unfold written
  split
  · exact Nat.zero_le _
  · next some =>
    obtain ⟨proper, short, -⟩ := shortest_figures .even (Nat.pos_of_ne_zero some) finite
    generalize (shortest .even rank).figures = f at *
    unfold Figures.written
    split
    · next integer =>
      calc f.value * tenTo (f.point.toNat - f.digits.length + 1)
          ≤ tenTo f.digits.length * tenTo (f.point.toNat - f.digits.length + 1) :=
            Nat.mul_le_mul_right _ proper.value_lt.le
        _ = tenTo (f.digits.length + (f.point.toNat - f.digits.length + 1)) := (tenTo_add _ _).symm
        _ ≤ tenTo 17 := tenTo_le (by omega)
    · exact short

theorem written_digits_pos (positive : 0 < rank) (finite : rank < infiniteRank) :
    0 < (written rank).digits := by
  obtain ⟨proper, -⟩ := shortest_figures .even positive finite
  unfold written Figures.written
  rw [if_neg positive.ne']
  split
  · exact Nat.mul_pos proper.value_pos (tenTo_pos _)
  · exact proper.value_pos

end Written

section Short

variable {rank : Nat} {c d : Decimal}

theorem Decimal.Hits.le_three_mul {m n : Nat} {exponent : Int} (positive : 0 < rank)
    (hm : Hits rank ⟨m, exponent⟩) (hn : Hits rank ⟨n, exponent⟩) : m ≤ 3 * n := by
  have high := hm.below
  have low := hn.above
  have next := Nat.mul_le_mul_right (tenTo (-exponent).toNat) (units_succ_le positive)
  have step : 0 < twoTo 1074 * tenTo exponent.toNat := Nat.mul_pos (twoTo_pos _) (tenTo_pos _)
  rw [num_eq] at high low
  simp only [den] at high low
  apply Nat.le_of_mul_le_mul_right _ step
  generalize twoTo 1074 * tenTo exponent.toNat = step at *
  simp only [Nat.add_mul, Nat.mul_assoc] at *
  omega

theorem Decimal.Hits.shifted_le {k : Nat} (positive : 0 < rank) (hc : c.Hits rank) (hd : d.Hits rank)
    (above : c.exponent = d.exponent + k) : c.digits * tenTo k ≤ 3 * d.digits := by
  have shifted : Hits rank ⟨c.digits * tenTo k, d.exponent⟩ := by
    rw [hits_shift, ← above]
    exact hc
  exact shifted.le_three_mul positive hd

theorem Decimal.Hits.digits_pos (positive : 0 < rank) (hd : d.Hits rank) : 0 < d.digits := by
  rcases Nat.eq_zero_or_pos d.digits with zero | some
  · have low := hd.above
    have center := Nat.mul_pos (units_pos positive) d.den_pos
    rw [num_eq, zero, Nat.zero_mul, Nat.add_mul] at low
    omega
  · exact some

-- A decimal that rounds to the number is at most one place coarser than the shortest one. It is so
-- where the number lies just below a power of ten, which then has one digit more.
theorem exponent_le_shortest (tie : Tie) (positive : 0 < rank) (finite : rank < infiniteRank)
    (hits : d.Hits rank) : d.exponent ≤ (shortest tie rank).exponent + 1 := by
  obtain ⟨places, least, most, exponent, -, -, -⟩ := shortest_spec tie positive finite
  by_contra coarser
  rcases Int.lt_or_le d.exponent (decimalScale rank) with fine | coarse
  · obtain ⟨last, grid⟩ : ∃ last : Nat, decimalScale rank - last = d.exponent :=
      ⟨(decimalScale rank - d.exponent).toNat, by omega⟩
    obtain ⟨places, -, most, exponent, -⟩ := shortest_within tie last positive finite (by omega)
      (by omega) (by rw [grid]; exact exists_onGrid?_of_hits hits)
    omega
  · obtain ⟨k, grid⟩ : ∃ k : Nat, d.exponent = decimalScale rank - (1 : Nat) + k :=
      ⟨(d.exponent - (decimalScale rank - 1)).toNat, by omega⟩
    have shifted : Decimal.Hits rank ⟨d.digits * tenTo k, decimalScale rank - (1 : Nat)⟩ := by
      rw [Decimal.hits_shift, ← grid]
      exact hits
    obtain ⟨places, least, most, exponent, -, upper, short⟩ := shortest_within tie 1 positive finite
      (by decide) (by decide) (exists_onGrid?_of_hits shifted)
    obtain rfl : places = 1 := by omega
    have near := hits.shifted_le (k := k) positive short (by omega)
    have some := Nat.le_mul_of_pos_left (tenTo k) (hits.digits_pos positive)
    have steps : tenTo 2 ≤ tenTo k := tenTo_le (by omega)
    have ten : tenTo 1 = 10 := rfl
    have hundred : tenTo 2 = 100 := rfl
    omega

theorem exponent_le_written (positive : 0 < rank) (finite : rank < infiniteRank) (hits : d.Hits rank)
    (fraction : d.exponent ≤ 0) : d.exponent ≤ (written rank).exponent + 1 := by
  have coarse := exponent_le_shortest .even positive finite hits
  obtain ⟨zeros, -, -, exponent⟩ := (shortest .even rank).exists_figures_zeros
  unfold written Figures.written
  rw [if_neg positive.ne']
  split
  · exact fraction
  · omega

/-- A number that rounds a decimal of up to fourteen digits and 21 places is written shortly too. -/
theorem written_of_hits (finite : rank < infiniteRank) (hits : d.Hits rank)
    (short : d.digits < tenTo 14) (least : -21 ≤ d.exponent) (fraction : d.exponent ≤ 0) :
    (written rank).digits < 2 * binade ∧ (written rank).exponent.natAbs ≤ 22 := by
  rcases Nat.eq_zero_or_pos rank with rfl | positive
  · exact ⟨by decide, by decide⟩
  · have coarse := exponent_le_written positive finite hits fraction
    have there := written_hits finite
    have some := written_digits_pos positive finite
    generalize written rank = w at *
    have room : 30 * tenTo 14 < 2 * binade := by decide
    rcases Int.lt_or_le w.exponent d.exponent with finer | coarser
    · have shifted : Decimal.Hits rank ⟨d.digits * tenTo 1, w.exponent⟩ := by
        rw [Decimal.hits_shift, show w.exponent + (1 : Nat) = d.exponent by omega]
        exact hits
      have near : w.digits ≤ 3 * (d.digits * 10) := there.le_three_mul positive shifted
      omega
    · obtain ⟨k, above⟩ : ∃ k : Nat, w.exponent = d.exponent + k :=
        ⟨(w.exponent - d.exponent).toNat, by omega⟩
      have near := there.shifted_le positive hits above
      have digits := Nat.le_mul_of_pos_right w.digits (tenTo_pos k)
      have power := Nat.le_mul_of_pos_left (tenTo k) some
      have few : k < 15 := by
        by_contra many
        have steps : tenTo 15 ≤ tenTo k := tenTo_le (by omega)
        have fifteen : 3 * tenTo 14 < tenTo 15 := by decide
        omega
      omega

theorem ofDecimal_hits (short : d.digits < tenTo 14) (least : -21 ≤ d.exponent)
    (fraction : d.exponent ≤ 0) (negative : Bool) :
    (ofDecimal negative d.digits d.exponent).rank < infiniteRank ∧
      d.Hits (ofDecimal negative d.digits d.exponent).rank := by
  unfold ofDecimal
  dsimp only
  split
  · next zero =>
    refine ⟨(by decide : 0 < infiniteRank), ?_⟩
    have center := near_units d.den_pos 0
    rw [units_of_le (Nat.zero_le _), Nat.zero_mul] at center
    unfold Decimal.Hits
    rw [Decimal.num_eq, zero, Nat.zero_mul]
    exact center
  · rw [if_neg (by omega), if_neg (by omega)]
    have last : nearestRank (tenTo 14 * twoTo 1074) 1 < infiniteRank := by decide +kernel
    have whole : d.exponent.toNat = 0 := by omega
    have less : nearestRank d.num d.den < infiniteRank := by
      refine Nat.lt_of_le_of_lt (nearestRank_mono d.den_pos Nat.one_pos ?_) last
      have one : tenTo 0 = 1 := rfl
      rw [Nat.mul_one, Decimal.num_eq, whole, one, Nat.mul_one]
      exact (Nat.mul_le_mul_right _ short.le).trans (Nat.le_mul_of_pos_right _ d.den_pos)
    change min (nearestRank d.num d.den) infiniteRank < infiniteRank ∧
      d.Hits (min (nearestRank d.num d.den) infiniteRank)
    rw [Nat.min_eq_left less.le]
    exact ⟨less, near_nearestRank d.num d.den_pos⟩

end Short

end Verdict.Binary64
