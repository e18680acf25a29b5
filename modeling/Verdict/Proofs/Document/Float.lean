import Verdict.Proofs.Binary64.Written
import Verdict.Proofs.Document.Magnitude
import Verdict.Proofs.Document.RoundTrip

set_option autoImplicit false

namespace Verdict

namespace Document

open Binary64

section Parts

variable {rest : List Char}

theorem readFraction_digits (negative : Bool) {whole fraction : List Char} {significand : Nat}
    (value : Nat.ofDigitChars 10 (whole ++ fraction) 0 = significand)
    (fits : significand < 0x10000000000000000) (some : fraction ≠ [])
    (digits : ∀ c ∈ fraction, c.isDigit) (stop : ∀ c ∈ rest.head?, c.isDigit = false) :
    readFraction negative (takeDigits 0 whole) (fraction ++ rest) =
      readPower negative significand (-fraction.length)
        (scaled negative significand (-fraction.length)) rest := by
  rw [Nat.ofDigitChars_append] at value
  have first := takeDigits_eq ((le_ofDigitChars fraction _).trans_lt (value ▸ fits))
  have second := takeDigits_eq (value ▸ fits)
  unfold readFraction
  rw [Text.takeWhile_append_of_stop digits stop, Text.dropWhile_append_of_stop digits stop, first]
  simp only [List.isEmpty_iff, some, if_false, second, value, Int.natCast_zero, Int.zero_sub]

theorem readMagnitude_point (negative : Bool) {whole fraction : List Char} {significand : Nat}
    (value : Nat.ofDigitChars 10 (whole ++ fraction) 0 = significand)
    (fits : significand < 0x10000000000000000) (someWhole : whole ≠ []) (some : fraction ≠ [])
    (plain : ∀ c more, whole ≠ '0' :: c :: more) (digits : ∀ c ∈ whole ++ fraction, c.isDigit)
    (stop : ∀ c ∈ rest.head?, c.isDigit = false) :
    readMagnitude negative (whole ++ '.' :: (fraction ++ rest)) =
      readPower negative significand (-fraction.length)
        (scaled negative significand (-fraction.length)) rest := by
  have digitsWhole : ∀ c ∈ whole, c.isDigit := fun c mem => digits c (List.mem_append_left _ mem)
  have dot : ∀ c ∈ ('.' :: (fraction ++ rest)).head?, c.isDigit = false := by
    rintro c ⟨⟩
    rfl
  have taken := Text.takeWhile_append_of_stop digitsWhole dot
  rw [readMagnitude_eq negative (by rwa [taken]) (by rwa [taken]), taken,
    Text.dropWhile_append_of_stop digitsWhole dot]
  exact readFraction_digits negative value fits some
    (fun c mem => digits c (List.mem_append_right _ mem)) stop

theorem readExponent_power (negative : Bool) (significand : Nat) (start power : Int)
    (small : power.natAbs < 0x80000000) (ends : NumberEnds rest) :
    readExponent negative significand start
        ((if power < 0 then '-' else '+') :: (Nat.toDigits 10 power.natAbs ++ rest)) =
      (scaled negative significand (start + power)).map (·, rest) := by
  have digits : ∀ c ∈ Nat.toDigits 10 power.natAbs, c.isDigit := fun c => Text.isDigit_of_mem_toDigits
  have value : Numeral.decimalValue (Nat.toDigits 10 power.natAbs) = power.natAbs := by
    have horner := Nat.ofDigitChars_ten_toDigits (n := power.natAbs)
    simp only [Nat.ofDigitChars, Nat.mul_comm 10] at horner
    exact horner
  have signed : Numeral.splitSign
      ((if power < 0 then '-' else '+') :: (Nat.toDigits 10 power.natAbs ++ rest)) =
      (decide (power < 0), Nat.toDigits 10 power.natAbs ++ rest) := by
    by_cases down : power < 0 <;> simp [down, Numeral.splitSign]
  have exponent : (if decide (power < 0) then start - power.natAbs else start + power.natAbs) =
      start + power := by
    simp only [decide_eq_true_eq]
    split <;> omega
  rw [readExponent_eq, signed]
  simp only [Text.takeWhile_append_of_stop digits ends.stop, Text.dropWhile_append_of_stop digits ends.stop,
    List.isEmpty_iff, Nat.toDigits_ne_nil, if_false, exponentNumber, value, small, if_true, exponent]

end Parts

section Layout

variable {f : Figures} {rest : List Char}

-- 0.00123
theorem readMagnitude_below_one (proper : f.Proper) (fits : f.value < 0x10000000000000000)
    (small : f.point ≤ 0) (negative : Bool) (ends : NumberEnds rest) :
    readMagnitude negative (positionalText ['.', '0'] f ++ rest) =
      (scaled negative f.decimal.digits f.decimal.exponent).map (·, rest) := by
  have value : Nat.ofDigitChars 10 (['0'] ++ (List.replicate (-f.point).toNat '0' ++ f.digits)) 0 =
      f.value := by
    simp [Nat.ofDigitChars_append, Nat.ofDigitChars_replicate_zero, Nat.ofDigitChars_cons, Figures.value]
  have digits : ∀ c ∈ ['0'] ++ (List.replicate (-f.point).toNat '0' ++ f.digits), c.isDigit := by
    intro c mem
    simp only [List.mem_append, List.mem_singleton, List.mem_replicate] at mem
    rcases mem with rfl | ⟨-, rfl⟩ | mem
    · rfl
    · rfl
    · exact proper.digits c mem
  have places : (-(List.replicate (-f.point).toNat '0' ++ f.digits).length : Int) =
      f.point - f.digits.length := by
    rw [List.length_append, List.length_replicate]
    omega
  have read := readMagnitude_point negative value fits (by simp) (by simp [proper.digits_ne_nil])
    (by simp) digits ends.stop
  rw [ends.readPower_eq, places] at read
  rw [positionalText, if_pos small]
  exact read

-- 12300.0
theorem readMagnitude_integer (proper : f.Proper) (large : 0 < f.point) (place : f.point ≤ 16)
    (whole : f.digits.length ≤ f.point.toNat) (negative : Bool) (ends : NumberEnds rest) :
    readMagnitude negative (positionalText ['.', '0'] f ++ rest) =
      (scaled negative (f.value * tenTo (f.point.toNat - f.digits.length + 1)) (-1)).map (·, rest) := by
  generalize zeros : f.point.toNat - f.digits.length = n
  have value : Nat.ofDigitChars 10 (f.digits ++ List.replicate n '0' ++ ['0']) 0 =
      f.value * tenTo (n + 1) := by
    rw [Nat.ofDigitChars_append, Nat.ofDigitChars_append, Nat.ofDigitChars_replicate_zero,
      Figures.value, tenTo_add]
    change 10 * (tenTo n * _) + 0 = _ * (tenTo n * 10)
    ring
  have fits : f.value * tenTo (n + 1) < 0x10000000000000000 := by
    calc f.value * tenTo (n + 1)
        < tenTo f.digits.length * tenTo (n + 1) :=
          Nat.mul_lt_mul_of_pos_right proper.value_lt (tenTo_pos _)
      _ = tenTo (f.digits.length + (n + 1)) := (tenTo_add _ _).symm
      _ ≤ tenTo 17 := tenTo_le (by omega)
      _ < 0x10000000000000000 := by decide
  have digits : ∀ c ∈ f.digits ++ List.replicate n '0' ++ ['0'], c.isDigit := by
    intro c mem
    simp only [List.mem_append, List.mem_singleton, List.mem_replicate] at mem
    rcases mem with (mem | ⟨-, rfl⟩) | rfl
    · exact proper.digits c mem
    · rfl
    · rfl
  have read := readMagnitude_point negative value fits (by simp [proper.digits_ne_nil]) (by simp)
    (fun c more => proper.no_zero_first _ c more) digits ends.stop
  rw [ends.readPower_eq] at read
  rw [positionalText, if_neg (by omega), if_pos whole, zeros, List.append_assoc]
  exact read

-- 12.3
theorem readMagnitude_mixed (proper : f.Proper) (fits : f.value < 0x10000000000000000)
    (large : 0 < f.point) (part : f.point.toNat < f.digits.length) (negative : Bool)
    (ends : NumberEnds rest) :
    readMagnitude negative (positionalText ['.', '0'] f ++ rest) =
      (scaled negative f.decimal.digits f.decimal.exponent).map (·, rest) := by
  have value : Nat.ofDigitChars 10 (f.digits.take f.point.toNat ++ f.digits.drop f.point.toNat) 0 =
      f.value := by
    rw [List.take_append_drop, Figures.value]
  have digits : ∀ c ∈ f.digits.take f.point.toNat ++ f.digits.drop f.point.toNat, c.isDigit := by
    rw [List.take_append_drop]
    exact proper.digits
  have places : (-(f.digits.drop f.point.toNat).length : Int) = f.point - f.digits.length := by
    rw [List.length_drop]
    omega
  have plain (c : Char) (more : List Char) : f.digits.take f.point.toNat ≠ '0' :: c :: more := by
    intro zero
    have whole := List.take_append_drop f.point.toNat f.digits
    rw [zero] at whole
    exact proper.no_zero_first [] c _ ((List.append_nil _).trans whole.symm)
  have some := proper.digits_ne_nil
  have read := readMagnitude_point negative value fits
    (by simp only [ne_eq, List.take_eq_nil_iff, some, or_false]; omega)
    (by simp only [ne_eq, List.drop_eq_nil_iff]; omega) plain digits ends.stop
  rw [ends.readPower_eq, places] at read
  rw [positionalText, if_neg (by omega), if_neg (by omega), List.append_assoc]
  exact read

-- 1.23e-7 or 1e22
theorem readMagnitude_exponent (proper : f.Proper) (fits : f.value < 0x10000000000000000)
    (scale : f.point.natAbs < 1000) (negative : Bool) (ends : NumberEnds rest) :
    readMagnitude negative (exponentText f ++ rest) =
      (scaled negative f.decimal.digits f.decimal.exponent).map (·, rest) := by
  obtain ⟨c, tail, lead, -⟩ := proper.lead
  have digits := proper.digits
  have value : Nat.ofDigitChars 10 f.digits 0 = f.value := rfl
  have power (start : Int) := readExponent_power negative f.value start (f.point - 1) (by omega) ends
  have total : f.decimal.exponent = -tail.length + (f.point - 1) := by
    simp only [Figures.decimal, lead, List.length_cons]
    omega
  rw [total]
  unfold exponentText
  dsimp only
  rw [lead] at digits value ⊢
  generalize (if f.point - 1 < 0 then '-' else '+') = sign at power ⊢
  generalize Nat.toDigits 10 (f.point - 1).natAbs = numeral at power ⊢
  have stop : ∀ c ∈ ('e' :: sign :: (numeral ++ rest)).head?, c.isDigit = false := by
    rintro c ⟨⟩
    rfl
  cases tail with
  | nil =>
    have taken := Text.takeWhile_append_of_stop digits stop
    have first := takeDigits_eq (value ▸ fits)
    change readMagnitude negative ([c] ++ 'e' :: sign :: (numeral ++ rest)) = _
    rw [readMagnitude_eq negative (by rw [taken]; simp) (by rw [taken]; simp), taken,
      Text.dropWhile_append_of_stop digits stop]
    unfold readTail
    simp only [first, value]
    exact power 0
  | cons d tail =>
    have text : c :: '.' :: (d :: tail) ++ 'e' :: sign :: numeral ++ rest =
        [c] ++ '.' :: (d :: tail ++ 'e' :: sign :: (numeral ++ rest)) := by
      simp
    rw [text, readMagnitude_point negative value fits (by simp) (by simp) (by simp) digits stop]
    exact power _

theorem readMagnitude_layout (proper : f.Proper) (fits : f.value < 0x10000000000000000)
    (scale : f.point.natAbs < 1000) (negative : Bool) (ends : NumberEnds rest) :
    readMagnitude negative
        ((if Layout.document.positional f.point then positionalText ['.', '0'] f else exponentText f) ++
          rest) =
      (scaled negative f.written.digits f.written.exponent).map (·, rest) := by
  unfold Figures.written
  split
  · next positional =>
    simp only [Layout.document, Bool.and_eq_true, decide_eq_true_eq] at positional
    split
    · next integer =>
      exact readMagnitude_integer proper integer.1 positional.2 integer.2.2 negative ends
    · next other =>
      rcases Int.lt_or_le 0 f.point with large | small
      · exact readMagnitude_mixed proper fits large (by omega) negative ends
      · exact readMagnitude_below_one proper fits small negative ends
  · next scientific =>
    simp only [Layout.document, Bool.and_eq_true, decide_eq_true_eq, not_and] at scientific
    rw [if_neg (by omega)]
    exact readMagnitude_exponent proper fits scale negative ends

end Layout

theorem readMagnitude_document {rank : Nat} (finite : rank < infiniteRank) (negative : Bool)
    {rest : List Char} (ends : NumberEnds rest) :
    readMagnitude negative (magnitudeText .document rank ++ rest) =
      (scaled negative (written rank).digits (written rank).exponent).map (·, rest) := by
  unfold magnitudeText written
  by_cases zero : rank = 0
  · have value : Nat.ofDigitChars 10 (['0'] ++ ['0']) 0 = 0 := rfl
    have read := readMagnitude_point negative value (by decide) (by simp) (by simp) (by simp) (by simp)
      ends.stop
    rw [ends.readPower_eq] at read
    rw [if_pos zero, if_pos zero]
    exact read
  · obtain ⟨proper, short, scale, -⟩ := shortest_figures .even (Nat.pos_of_ne_zero zero) finite
    rw [if_neg zero, if_neg zero, if_neg finite.ne]
    exact readMagnitude_layout proper (short.trans_lt (by decide)) scale negative ends

end Document

end Verdict
