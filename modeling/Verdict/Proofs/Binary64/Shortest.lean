import Verdict.Proofs.Binary64.Rounding

set_option autoImplicit false

namespace Verdict.Binary64

namespace Decimal

def num (d : Decimal) : Nat := d.digits * tenTo d.exponent.toNat * twoTo 1074

def den (d : Decimal) : Nat := tenTo (-d.exponent).toNat

theorem den_pos (d : Decimal) : 0 < d.den := tenTo_pos _

theorem num_eq (d : Decimal) : d.num = d.digits * (twoTo 1074 * tenTo d.exponent.toNat) := by
  rw [num]
  ring

end Decimal

section Width

theorem guess_bounds : ∀ width ∈ List.range 2400,
    tenTo (width * 30103 / 100000 - 1) ≤ twoTo width ∧
      twoTo (width + 1) ≤ tenTo (width * 30103 / 100000 + 2) := by
  decide +kernel

theorem decimalWidth_spec {n width : Nat} (positive : 0 < n) (less : n < twoTo width)
    (narrow : width ≤ 2400) :
    0 < decimalWidth n ∧ tenTo (decimalWidth n - 1) ≤ n ∧ n < tenTo (decimalWidth n) := by
  have narrow : Nat.log2 n < 2400 := ((Nat.log2_lt positive.ne').mpr less).trans_le narrow
  have lower : twoTo (Nat.log2 n) ≤ n := Nat.log2_self_le positive.ne'
  have upper : n < twoTo (Nat.log2 n + 1) := Nat.lt_log2_self
  obtain ⟨least, most⟩ := guess_bounds _ (List.mem_range.mpr narrow)
  unfold decimalWidth
  dsimp only
  generalize Nat.log2 n * 30103 / 100000 = guess at *
  split
  · next less =>
    have some : guess ≠ 0 := by
      rintro rfl
      exact absurd less (Nat.not_lt.mpr positive)
    exact ⟨by omega, least.trans lower, less⟩
  · next notLess =>
    split
    · next less => exact ⟨by omega, Nat.not_lt.mp notLess, less⟩
    · next more => exact ⟨by omega, Nat.not_lt.mp more, upper.trans_le most⟩

end Width

section Grid

variable {rank : Nat}

theorem units_lt_of_finite (finite : rank < infiniteRank) : units rank < twoTo 2098 := by
  have top : units infiniteRank = twoTo 2098 := by decide +kernel
  exact top ▸ units_strictMono finite

theorem units_pos (positive : 0 < rank) : 0 < units rank :=
  Nat.lt_of_le_of_lt (Nat.zero_le _) (units_strictMono positive)

theorem exists_width (positive : 0 < rank) (finite : rank < infiniteRank) :
    ∃ width : Nat, 0 < width ∧ decimalScale rank = (width : Int) - 400 ∧
      tenTo (width - 1) * twoTo 1074 ≤ units rank * tenTo 400 ∧
      units rank * tenTo 400 < tenTo width * twoTo 1074 := by
  have some := units_pos positive
  have most := units_lt_of_finite finite
  have least : twoTo 1074 ≤ tenTo 400 := by decide +kernel
  have room : twoTo 2098 * tenTo 400 ≤ twoTo 2400 * twoTo 1074 := by decide +kernel
  have natural : 0 < units rank * tenTo 400 / twoTo 1074 :=
    Nat.div_pos (least.trans (Nat.le_mul_of_pos_left _ some)) (twoTo_pos _)
  have less : units rank * tenTo 400 / twoTo 1074 < twoTo 2400 :=
    (Nat.div_lt_iff_lt_mul (twoTo_pos _)).mpr
      ((Nat.mul_lt_mul_of_pos_right most (tenTo_pos _)).trans_le room)
  obtain ⟨wide, lower, upper⟩ := decimalWidth_spec natural less le_rfl
  refine ⟨_, wide, rfl, ?_, ?_⟩
  · exact (Nat.le_div_iff_mul_le (twoTo_pos _)).mp lower
  · exact (Nat.div_lt_iff_lt_mul (twoTo_pos _)).mp upper

theorem decimalScale_bounds (positive : 0 < rank) (finite : rank < infiniteRank) :
    -323 ≤ decimalScale rank ∧ decimalScale rank ≤ 309 := by
  obtain ⟨width, wide, scale, lower, upper⟩ := exists_width positive finite
  have least : 77 ≤ width := by
    by_contra narrow
    have room : tenTo 76 * twoTo 1074 ≤ tenTo 400 := by decide +kernel
    have short : tenTo width * twoTo 1074 ≤ tenTo 76 * twoTo 1074 :=
      Nat.mul_le_mul_right _ (tenTo_le (by omega))
    have some : tenTo 400 ≤ units rank * tenTo 400 := Nat.le_mul_of_pos_left _ (units_pos positive)
    exact absurd (upper.trans_le (short.trans room)) (Nat.not_lt.mpr some)
  have most : width ≤ 709 := by
    by_contra wider
    have room : twoTo 2098 * tenTo 400 ≤ tenTo 709 * twoTo 1074 := by decide +kernel
    have long : tenTo 709 * twoTo 1074 ≤ tenTo (width - 1) * twoTo 1074 :=
      Nat.mul_le_mul_right _ (tenTo_le (by omega))
    have less := Nat.mul_lt_mul_of_pos_right (units_lt_of_finite finite) (tenTo_pos 400)
    exact absurd (less.trans_le (room.trans long)) (Nat.not_lt.mpr lower)
  omega

theorem steps_bounds (positive : 0 < rank) (finite : rank < infiniteRank) (places : Nat)
    (some : 0 < places) {exponent : Int} (grid : exponent = decimalScale rank - places) :
    let num := units rank * tenTo (-exponent).toNat
    let den := twoTo 1074 * tenTo exponent.toNat
    tenTo (places - 1) * den ≤ num ∧ num < tenTo places * den := by
  intro num den
  obtain ⟨width, wide, scale, lower, upper⟩ := exists_width positive finite
  have level : width + (-exponent).toNat = exponent.toNat + places + 400 := by omega
  have common (k : Nat) : tenTo k * den * tenTo 400 = tenTo (exponent.toNat + k + 400) * twoTo 1074 := by
    rw [tenTo_add, tenTo_add]
    ring
  have steps : num * tenTo 400 = units rank * tenTo 400 * tenTo (-exponent).toNat := by
    ring
  constructor
  · apply Nat.le_of_mul_le_mul_right _ (tenTo_pos 400)
    have place : exponent.toNat + (places - 1) + 400 = width - 1 + (-exponent).toNat := by omega
    calc tenTo (places - 1) * den * tenTo 400
        = tenTo (width - 1) * twoTo 1074 * tenTo (-exponent).toNat := by
          rw [common, place, tenTo_add]
          ring
      _ ≤ units rank * tenTo 400 * tenTo (-exponent).toNat := Nat.mul_le_mul_right _ lower
      _ = num * tenTo 400 := steps.symm
  · apply Nat.lt_of_mul_lt_mul_right (a := tenTo 400)
    calc num * tenTo 400
        = units rank * tenTo 400 * tenTo (-exponent).toNat := steps
      _ < tenTo width * twoTo 1074 * tenTo (-exponent).toNat :=
          Nat.mul_lt_mul_of_pos_right upper (tenTo_pos _)
      _ = tenTo places * den * tenTo 400 := by
          rw [common, ← level, tenTo_add]
          ring

theorem units_gap (positive : 0 < rank) :
    2 * units rank + 10 ^ 16 * units (rank - 1) < 10 ^ 16 * units (rank + 1) := by
  obtain ⟨s, m, moved, small, rfl⟩ := exists_moved rank
  have here := moved.units_eq
  have after := moved.after
  unfold binade at small
  by_cases lowest : s ≠ 0 ∧ m = binade
  · -- the rank before is half a step away only
    obtain ⟨up, rfl⟩ := lowest
    obtain ⟨s, rfl⟩ : ∃ t, s = t + 1 := ⟨s - 1, by omega⟩
    have last : Moved s (2 * binade - 1) := ⟨by decide, fun _ => by decide⟩
    have place : (s + 1) * binade + binade - 1 = s * binade + (2 * binade - 1) := by
      unfold binade
      omega
    have step := twoTo_pos s
    rw [here, place, last.units_eq, twoTo_succ]
    rw [twoTo_succ] at after
    unfold binade at *
    omega
  · have some : m ≠ 0 := by
      rintro rfl
      rw [moved.still] at positive
      exact absurd positive (by decide)
    have step := twoTo_pos s
    have room : m * twoTo s < 10 ^ 16 * twoTo s := Nat.mul_lt_mul_of_pos_right (by omega) step
    obtain ⟨p, rfl⟩ : ∃ p, m = p + 1 := ⟨m - 1, by omega⟩
    rw [here, moved.before some fun up same => lowest ⟨up, same⟩, Nat.add_sub_cancel]
    simp only [Nat.add_mul] at *
    omega

end Grid

section Search

variable {tie : Tie} {rank : Nat}

def Decimal.Hits (rank : Nat) (d : Decimal) : Prop := Near d.num d.den rank

theorem inside_iff_hits {m : Nat} {exponent : Int} :
    (roundingInterval rank).holds (m * tenTo exponent.toNat * twoTo 1075) (tenTo (-exponent).toNat) =
      true ↔ Decimal.Hits rank ⟨m, exponent⟩ := by
  have twice : m * tenTo exponent.toNat * twoTo 1075 = 2 * Decimal.num ⟨m, exponent⟩ := by
    have double : twoTo 1075 = 2 * twoTo 1074 := by decide +kernel
    rw [double, Decimal.num]
    ring
  rw [twice]
  exact holds_iff_near

def stepsBelow (rank : Nat) (exponent : Int) : Nat :=
  units rank * tenTo (-exponent).toNat / (twoTo 1074 * tenTo exponent.toNat)

theorem onGrid?_eq_some {exponent : Int} {d : Decimal} (found : onGrid? tie rank exponent = some d) :
    d.exponent = exponent ∧
      (d.digits = stepsBelow rank exponent ∨ d.digits = stepsBelow rank exponent + 1) ∧
      d.Hits rank := by
  unfold onGrid? at found
  dsimp only at found
  rw [← stepsBelow] at found
  split at found
  · cases found
  · next first _ =>
    cases found
    exact ⟨rfl, .inl rfl, inside_iff_hits.mp first⟩
  · next _ second =>
    cases found
    exact ⟨rfl, .inr rfl, inside_iff_hits.mp second⟩
  · next first second =>
    have choice : d = ⟨stepsBelow rank exponent, exponent⟩ ∨
        d = ⟨stepsBelow rank exponent + 1, exponent⟩ := by
      split at found
      · exact .inl (Option.some.inj found).symm
      · split at found
        · exact .inr (Option.some.inj found).symm
        · cases tie with
          | up => exact .inr (Option.some.inj found).symm
          | even =>
            rw [← Option.some.inj found]
            rcases Nat.mod_two_eq_zero_or_one (stepsBelow rank exponent) with even | odd
            · exact .inl (by rw [even, Nat.add_zero])
            · exact .inr (by rw [odd])
    rcases choice with rfl | rfl
    · exact ⟨rfl, .inl rfl, inside_iff_hits.mp first⟩
    · exact ⟨rfl, .inr rfl, inside_iff_hits.mp second⟩

theorem onGrid?_eq_none {exponent : Int} (none : onGrid? tie rank exponent = none) :
    ¬Decimal.Hits rank ⟨stepsBelow rank exponent, exponent⟩ ∧
      ¬Decimal.Hits rank ⟨stepsBelow rank exponent + 1, exponent⟩ := by
  unfold onGrid? at none
  dsimp only at none
  rw [← stepsBelow] at none
  rw [← inside_iff_hits, ← inside_iff_hits, Bool.not_eq_true, Bool.not_eq_true]
  split at none
  · next first second => exact ⟨first, second⟩
  · cases none
  · cases none
  · split at none
    · cases none
    · split at none
      · cases none
      · cases tie <;> cases none

theorem stepsBelow_bounds (rank : Nat) (exponent : Int) :
    let num := units rank * tenTo (-exponent).toNat
    let den := twoTo 1074 * tenTo exponent.toNat
    stepsBelow rank exponent * den ≤ num ∧ num < (stepsBelow rank exponent + 1) * den := by
  intro num den
  have step : 0 < den := Nat.mul_pos (twoTo_pos _) (tenTo_pos _)
  exact ⟨Nat.div_mul_le_self num den, (Nat.div_lt_iff_lt_mul step).mp (Nat.lt_succ_self _)⟩

theorem hits_of_between {m : Nat} {exponent : Int}
    (between : (units (rank - 1) + units rank) * tenTo (-exponent).toNat <
        2 * (m * (twoTo 1074 * tenTo exponent.toNat)) ∧
      2 * (m * (twoTo 1074 * tenTo exponent.toNat)) <
        (units rank + units (rank + 1)) * tenTo (-exponent).toNat) :
    Decimal.Hits rank ⟨m, exponent⟩ := by
  rw [← Decimal.num_eq ⟨m, exponent⟩] at between
  refine ⟨between.1.le, between.2.le, ?_⟩
  rintro (low | high)
  · exact absurd low between.1.ne'
  · exact absurd high between.2.ne

-- If both neighbours missed, the whole interval would lie within one step.
theorem exists_hit (positive : 0 < rank) (finite : rank < infiniteRank) :
    ∃ d, onGrid? tie rank (decimalScale rank - 17) = some d := by
  generalize grid : decimalScale rank - 17 = exponent
  cases found : onGrid? tie rank exponent with
  | some d => exact ⟨d, rfl⟩
  | none =>
    obtain ⟨first, second⟩ := onGrid?_eq_none found
    have first := mt hits_of_between first
    have second := mt hits_of_between second
    obtain ⟨wide, -⟩ := steps_bounds positive finite 17 (by decide) grid.symm
    obtain ⟨least, most⟩ := stepsBelow_bounds rank exponent
    have scale := tenTo_pos (-exponent).toNat
    have before : units (rank - 1) ≤ units rank := units_strictMono.monotone (by omega)
    have before := Nat.mul_le_mul_right (tenTo (-exponent).toNat) before
    have after := Nat.mul_lt_mul_of_pos_right (units_lt_succ rank) scale
    have gap := Nat.mul_lt_mul_of_pos_right (units_gap positive) scale
    generalize stepsBelow rank exponent = steps at *
    generalize twoTo 1074 * tenTo exponent.toNat = step at *
    simp only [Nat.add_mul, Nat.mul_assoc, Nat.one_mul] at *
    generalize units (rank - 1) * tenTo (-exponent).toNat = low at *
    generalize units rank * tenTo (-exponent).toNat = here at *
    generalize units (rank + 1) * tenTo (-exponent).toNat = high at *
    have digits : tenTo (17 - 1) = 10 ^ 16 := rfl
    rw [digits] at wide
    omega

theorem exists_onGrid?_of_hits {m : Nat} {exponent : Int} (hits : Decimal.Hits rank ⟨m, exponent⟩) :
    ∃ d, onGrid? tie rank exponent = some d := by
  cases found : onGrid? tie rank exponent with
  | some d => exact ⟨d, rfl⟩
  | none =>
    obtain ⟨first, second⟩ := onGrid?_eq_none found
    obtain ⟨least, most⟩ := stepsBelow_bounds rank exponent
    rcases Nat.lt_or_ge (stepsBelow rank exponent) m with above | below
    · refine absurd (hits.toward (Decimal.den_pos _) (.inr ⟨?_, ?_⟩)) second
      · rw [Decimal.num_eq]
        exact most.le
      · rw [Decimal.num_eq, Decimal.num_eq]
        exact Nat.mul_le_mul_right _ above
    · refine absurd (hits.toward (Decimal.den_pos _) (.inl ⟨?_, ?_⟩)) first
      · rw [Decimal.num_eq, Decimal.num_eq]
        exact Nat.mul_le_mul_right _ below
      · rw [Decimal.num_eq]
        exact least

theorem search_spec {scale : Int} (grids places : Nat) {last : Nat} (least : places ≤ last)
    (most : last < places + grids) (hit : ∃ d, onGrid? tie rank (scale - last) = some d) :
    ∃ p, places ≤ p ∧ p ≤ last ∧
      onGrid? tie rank (scale - p) = some (search tie rank scale grids places) := by
  induction grids generalizing places with
  | zero => omega
  | succ grids ih =>
    unfold search
    split
    · next d found => exact ⟨places, le_rfl, least, found⟩
    · next missed =>
      have later : places ≠ last := by
        rintro rfl
        obtain ⟨d, found⟩ := hit
        rw [missed] at found
        cases found
      obtain ⟨p, least', most', found⟩ := ih (places + 1) (by omega) (by omega)
      exact ⟨p, by omega, most', found⟩

theorem shortest_within (tie : Tie) (last : Nat) (positive : 0 < rank) (finite : rank < infiniteRank)
    (least : 0 < last) (most : last ≤ 17)
    (hit : ∃ d, onGrid? tie rank (decimalScale rank - last) = some d) :
    ∃ places : Nat, 0 < places ∧ places ≤ last ∧
      (shortest tie rank).exponent = decimalScale rank - places ∧
      tenTo (places - 1) ≤ (shortest tie rank).digits ∧
      (shortest tie rank).digits ≤ tenTo places ∧ (shortest tie rank).Hits rank := by
  obtain ⟨places, least, most, found⟩ := search_spec 17 1 least (by omega) hit
  change onGrid? tie rank _ = some (shortest tie rank) at found
  obtain ⟨grid, digits, hits⟩ := onGrid?_eq_some found
  obtain ⟨lower, upper⟩ := steps_bounds positive finite places (by omega) rfl
  have step : 0 < twoTo 1074 * tenTo (decimalScale rank - places).toNat :=
    Nat.mul_pos (twoTo_pos _) (tenTo_pos _)
  have lower : tenTo (places - 1) ≤ stepsBelow rank (decimalScale rank - places) :=
    (Nat.le_div_iff_mul_le step).mpr lower
  have upper : stepsBelow rank (decimalScale rank - places) < tenTo places :=
    (Nat.div_lt_iff_lt_mul step).mpr upper
  exact ⟨places, by omega, most, grid, by omega, by omega, hits⟩

/-- The shortest decimal of a number rounds to it and has at most seventeen digits. -/
theorem shortest_spec (tie : Tie) (positive : 0 < rank) (finite : rank < infiniteRank) :
    ∃ places : Nat, 0 < places ∧ places ≤ 17 ∧
      (shortest tie rank).exponent = decimalScale rank - places ∧
      tenTo (places - 1) ≤ (shortest tie rank).digits ∧
      (shortest tie rank).digits ≤ tenTo places ∧ (shortest tie rank).Hits rank :=
  shortest_within tie 17 positive finite (by decide) le_rfl (exists_hit positive finite)

theorem ofDecimal_of_hits {d : Decimal} (hits : d.Hits rank) (finite : rank < infiniteRank)
    (some : d.digits ≠ 0) (least : -533 ≤ d.exponent) (most : d.exponent ≤ 400) (negative : Bool) :
    ofDecimal negative d.digits d.exponent = ⟨negative, rank, finite.le⟩ := by
  have nearest := (nearestRank_eq_iff d.den_pos).mpr hits
  unfold ofDecimal
  dsimp only
  rw [if_neg some, if_neg (by omega), if_neg (by omega)]
  exact ofUnits_eq negative nearest finite.le

end Search

end Verdict.Binary64
