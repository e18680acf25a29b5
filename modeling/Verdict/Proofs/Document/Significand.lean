import Mathlib.Algebra.Order.Field.Power
import Verdict.Proofs.Document.Scalar
import Verdict.Proofs.Document.Scaling

set_option autoImplicit false

namespace Verdict.Document

open Binary64 (ofNat infiniteRank)

section Scales

theorem scale?_finite {steps : Nat} {x y : Binary64} {exponent : Int}
    (found : scale? steps x exponent = some y) (natural : x.negative = false)
    (finite : x.rank < infiniteRank) : y.negative = false ∧ y.rank < infiniteRank := by
  rcases Int.lt_or_le exponent 0 with down | up
  · obtain ⟨z, same, sign, less⟩ := scale?_of_neg steps down natural
    rw [found, Option.some_inj] at same
    exact same ▸ ⟨sign, less.trans_lt finite⟩
  · unfold scale? at found
    split at found
    · simp only [Option.ite_none_right_eq_some, Option.some.injEq] at found
      obtain ⟨inside, rfl⟩ := found
      exact ⟨congrArg (· != false) natural, of_decide_eq_true inside⟩
    · split at found <;> cases found
      exact ⟨natural, finite⟩

theorem ofNat_finite {n : Nat} (fits : n < 0x10000000000000000) : (ofNat n).rank < infiniteRank := by
  have last : (ofNat 0x10000000000000000).rank < infiniteRank := by decide +kernel
  exact (Binary64.ofNat_mono fits.le).trans_lt last

theorem Scaled.finite {significand : Nat} {start power : Int} {x : Binary64}
    (h : Scaled significand start power x) (fits : significand < 0x10000000000000000) :
    x.negative = false ∧ x.rank < infiniteRank := by
  unfold Scaled at h
  split at h
  · exact scale?_finite h rfl (ofNat_finite fits)
  · rw [h.2]
    exact ⟨rfl, by decide⟩

-- The largest products, power by power, for the powers that not every significand may have.
theorem mul_powerOfTen_range : ∀ k < 21,
    ((ofNat (tenTo (20 - k))).mul (powerOfTen (288 + k))).rank < infiniteRank := by
  decide +kernel

theorem tenTo_cast (k : Nat) : (tenTo k : ℚ) = 10 ^ (k : Int) := by
  rw [zpow_natCast]
  exact Nat.cast_pow 10 k

theorem mul_powerOfTen_fits {n k : Nat} (fits : n < 0x10000000000000000) (power : k ≤ 308)
    (bounded : n * tenTo k ≤ tenTo 308) : ((ofNat n).mul (powerOfTen k)).rank < infiniteRank := by
  rcases Nat.lt_or_ge k 288 with low | high
  · have short : n ≤ tenTo 20 := fits.le.trans (by decide +kernel)
    exact (mul_powerOfTen_mono short low.le).trans_lt (mul_powerOfTen_range 0 (by decide))
  · obtain ⟨j, rfl⟩ := Nat.exists_eq_add_of_le high
    have total : tenTo (20 - j) * tenTo (288 + j) = tenTo 308 := by
      rw [← Binary64.tenTo_add]
      congr 1
      omega
    have less : n ≤ tenTo (20 - j) :=
      Nat.le_of_mul_le_mul_right (bounded.trans total.ge) (Binary64.tenTo_pos _)
    exact (mul_powerOfTen_mono less le_rfl).trans_lt (mul_powerOfTen_range j (by omega))

theorem exists_scale? {n : Nat} {exponent : Int} (fits : n < 0x10000000000000000)
    (range : (n : ℚ) * 10 ^ exponent ≤ tenTo 308) :
    ∃ x, scale? 3 (ofNat n) exponent = some x := by
  rcases Int.lt_or_le exponent 0 with down | up
  · obtain ⟨x, found, -, -⟩ := scale?_of_neg 3 down (rfl : (ofNat n).negative = false)
    exact ⟨x, found⟩
  · obtain ⟨k, rfl⟩ := Int.eq_ofNat_of_zero_le up
    rw [← tenTo_cast] at range
    have bounded : n * tenTo k ≤ tenTo 308 := by exact_mod_cast range
    unfold scale?
    by_cases power : k ≤ 308
    · rw [if_pos (by simpa using power), if_pos up]
      exact ⟨_, if_pos (decide_eq_true (mul_powerOfTen_fits fits power bounded))⟩
    · have none : n = 0 := by
        by_contra positive
        have last : tenTo 308 ≤ lastMiddle := by decide +kernel
        exact power (power_le_of_le_lastMiddle (Nat.pos_of_ne_zero positive) (bounded.trans last))
      subst none
      rw [if_neg (by simpa using power), if_pos (by decide +kernel)]
      exact ⟨_, rfl⟩

end Scales

section Digits

theorem Leading.takeDigits {start : Nat} {digits : List Char} {s : Significand}
    (h : Leading start digits s) : takeDigits start digits = s := by
  obtain ⟨taken, left, rfl, rfl, fits, stop⟩ := h
  exact takeDigits_append fits stop

theorem Leading.fits {start : Nat} {digits : List Char} {s : Significand}
    (h : Leading start digits s) : s.value < 0x10000000000000000 := by
  obtain ⟨_, _, _, _, fits, _⟩ := h
  exact fits

theorem Leading.value_eq {start : Nat} {digits : List Char} {s : Significand}
    (h : Leading start digits s) (all : s.dropped = 0) : s.value = Nat.ofDigitChars 10 digits start := by
  obtain ⟨taken, left, rfl, rfl, -, -⟩ := h
  obtain rfl := List.length_eq_zero_iff.mp all
  rw [List.append_nil]

theorem leading_takeDigits {start : Nat} (fits : start < 0x10000000000000000) (digits : List Char) :
    Leading start digits (Document.takeDigits start digits) := by
  induction digits generalizing start with
  | nil => exact ⟨[], [], rfl, by simp [Document.takeDigits], fits, nofun⟩
  | cons c digits ih =>
    rw [Document.takeDigits]
    dsimp only
    split
    · next next =>
      obtain ⟨taken, left, split, taken_eq, fits, stop⟩ := ih next
      refine ⟨c :: taken, left, by rw [split, List.cons_append], ?_, fits, ?_⟩
      · rw [taken_eq, Nat.ofDigitChars_cons, Nat.mul_comm 10, List.length_cons]
      · simpa only [List.cons_append, Nat.ofDigitChars_cons, Nat.mul_comm 10] using stop
    · next beyond =>
      refine ⟨[], c :: digits, rfl, by simp, fits, ?_⟩
      rintro d ⟨⟩
      simpa only [List.nil_append, Nat.ofDigitChars_cons, Nat.ofDigitChars_nil, Nat.mul_comm 10] using
        Nat.not_lt.mp beyond

theorem mul_tenTo_le_ofDigitChars (digits more : List Char) (start : Nat) :
    Nat.ofDigitChars 10 digits start * tenTo more.length ≤
      Nat.ofDigitChars 10 (digits ++ more) start := by
  rw [Nat.ofDigitChars_append, Nat.ofDigitChars_eq_ofDigitChars_zero (l := more), Nat.mul_comm]
  exact Nat.le_add_right _ _

theorem Leading.value_mul_le {whole fraction : List Char} {s t : Significand}
    (h : Leading 0 whole s) (h' : Leading s.value fraction t) :
    t.value * tenTo (s.dropped + fraction.length) ≤
      Nat.ofDigitChars 10 (whole ++ fraction) 0 * tenTo t.taken := by
  obtain ⟨taken, left, rfl, rfl, -, stop⟩ := h
  obtain ⟨taken', left', rfl, rfl, fits, -⟩ := h'
  dsimp only at fits ⊢
  cases left with
  | nil =>
    have kept := mul_tenTo_le_ofDigitChars (taken ++ taken') left' 0
    rw [Nat.ofDigitChars_append] at kept
    simp only [List.append_nil, List.length_nil, Nat.zero_add, List.length_append]
    rw [Nat.add_comm, Binary64.tenTo_add, ← Nat.mul_assoc, ← List.append_assoc]
    exact Nat.mul_le_mul_right _ kept
  | cons c left =>
    -- what the fraction still gives is one digit at most, and less than the first that was left out
    have beyond := stop c rfl
    rw [Nat.ofDigitChars_append] at beyond
    generalize start : Nat.ofDigitChars 10 taken 0 = n at beyond fits
    have first : Nat.ofDigitChars 10 taken' n * tenTo 1 ≤
        Nat.ofDigitChars 10 [c] n * tenTo taken'.length := by
      cases taken' with
      | nil => simp [Nat.ofDigitChars_cons, tenTo, Nat.mul_comm]
      | cons d taken' => exact Nat.mul_le_mul (fits.le.trans beyond) (Binary64.tenTo_le (by simp))
    have kept := mul_tenTo_le_ofDigitChars (taken ++ [c]) (left ++ (taken' ++ left')) 0
    rw [Nat.ofDigitChars_append, start] at kept
    have places : (c :: left).length + (taken' ++ left').length =
        1 + (left ++ (taken' ++ left')).length := by
      simp
      omega
    rw [places, Binary64.tenTo_add, ← Nat.mul_assoc]
    refine (Nat.mul_le_mul_right _ first).trans ?_
    rw [Nat.mul_right_comm]
    exact Nat.mul_le_mul_right _ (kept.trans_eq (by simp))

theorem Parts.InRange.rounds {p : Parts} (range : p.InRange) : ∃ x, p.Rounds x := by
  obtain ⟨range, power⟩ := range
  have whole := leading_takeDigits (by decide : 0 < 0x10000000000000000) p.whole
  have more := leading_takeDigits whole.fits p.fraction
  have less := whole.value_mul_le more
  generalize Document.takeDigits 0 p.whole = s at whole more less
  generalize Document.takeDigits s.value p.fraction = t at more less
  suffices ∃ x, Scaled t.value (s.dropped - t.taken) p.exponent x by
    obtain ⟨x, scaled⟩ := this
    exact ⟨x, s, t, whole, more, scaled⟩
  unfold Scaled
  split
  · apply exists_scale? more.fits
    refine le_trans ?_ range
    have cast : (t.value : ℚ) * 10 ^ (s.dropped + p.fraction.length : Int) ≤
        p.digits * 10 ^ (t.taken : Int) := by
      rw [← Nat.cast_add, ← tenTo_cast, ← tenTo_cast]
      exact_mod_cast less
    have scaled := mul_le_mul_of_nonneg_right cast
      (zpow_nonneg (show (0 : ℚ) ≤ 10 by norm_num) (p.exponent - t.taken - p.fraction.length))
    rw [mul_assoc, mul_assoc, ← zpow_add₀ (by norm_num), ← zpow_add₀ (by norm_num)] at scaled
    rw [Parts.magnitude]
    convert scaled using 3 <;> ring
  · next large =>
    -- so large a power may only be negative, or else the number is zero
    rcases power with zero | small
    · have none : t.value = 0 := by
        have nothing : t.value * tenTo (s.dropped + p.fraction.length) = 0 := by
          have digits : Nat.ofDigitChars 10 (p.whole ++ p.fraction) 0 = 0 := zero
          rw [digits, Nat.zero_mul] at less
          exact Nat.le_zero.mp less
        exact (Nat.mul_eq_zero.mp nothing).resolve_right (Binary64.tenTo_pos _).ne'
      exact ⟨.zero, .inl none, rfl⟩
    · exact ⟨.zero, .inr (by omega), rfl⟩

theorem Parts.Rounds.finite {p : Parts} {x : Binary64} (h : p.Rounds x) :
    x.negative = false ∧ x.rank < infiniteRank := by
  obtain ⟨s, t, whole, more, scaled⟩ := h
  exact scaled.finite more.fits

theorem Written.exists_spellsMagnitude {text : List Char} {p : Parts} (h : Written text p)
    (range : p.InRange) : ∃ n, SpellsMagnitude p.negative text n := by
  by_cases integer : p.IsInteger
  · exact ⟨_, .int h integer⟩
  · obtain ⟨x, rounds⟩ := range.rounds
    exact ⟨_, .float (decide_eq_true rounds.finite.2) h integer rounds⟩

end Digits

end Verdict.Document
