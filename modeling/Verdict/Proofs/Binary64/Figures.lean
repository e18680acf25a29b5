import Mathlib.Data.List.DropRight
import Verdict.Proofs.Binary64.Shortest
import Verdict.Proofs.Text.Digits

set_option autoImplicit false

namespace Verdict.Binary64

namespace Decimal

theorem hits_shift {rank m k : Nat} {exponent : Int} :
    Hits rank ⟨m * tenTo k, exponent⟩ ↔ Hits rank ⟨m, exponent + k⟩ := by
  refine Near.congr (den_pos _) (den_pos _) ?_
  have level : k + exponent.toNat + (-(exponent + k)).toNat = (exponent + k).toNat + (-exponent).toNat := by
    omega
  simp only [num, den]
  calc m * tenTo k * tenTo exponent.toNat * twoTo 1074 * tenTo (-(exponent + k)).toNat
      = m * twoTo 1074 * tenTo (k + exponent.toNat + (-(exponent + k)).toNat) := by
        rw [tenTo_add, tenTo_add]
        ring
    _ = m * tenTo (exponent + k).toNat * twoTo 1074 * tenTo (-exponent).toNat := by
        rw [level, tenTo_add]
        ring

end Decimal

namespace Figures

def value (f : Figures) : Nat := Nat.ofDigitChars 10 f.digits 0

def decimal (f : Figures) : Decimal := ⟨f.value, f.point - f.digits.length⟩

structure Proper (f : Figures) : Prop where
  digits : ∀ c ∈ f.digits, c.isDigit
  lead : ∃ c tail, f.digits = c :: tail ∧ c ≠ '0'
  value_pos : 0 < f.value
  value_lt : f.value < tenTo f.digits.length

theorem Proper.digits_ne_nil {f : Figures} (proper : f.Proper) : f.digits ≠ [] := by
  obtain ⟨c, tail, lead, -⟩ := proper.lead
  rw [lead]
  exact List.cons_ne_nil c tail

theorem Proper.no_zero_first {f : Figures} (proper : f.Proper) (more : List Char) (c : Char)
    (next : List Char) : f.digits ++ more ≠ '0' :: c :: next := by
  obtain ⟨d, tail, lead, nonzero⟩ := proper.lead
  rw [lead]
  intro same
  exact nonzero (List.cons.inj same).1

end Figures

namespace Decimal

variable {d : Decimal}

theorem exists_figures_zeros (d : Decimal) :
    ∃ zeros, Nat.toDigits 10 d.digits = d.figures.digits ++ List.replicate zeros '0' ∧
      d.digits = d.figures.value * tenTo zeros ∧
      d.figures.decimal.exponent = d.exponent + zeros := by
  have ends : (Nat.toDigits 10 d.digits).rtakeWhile (· == '0') =
      List.replicate ((Nat.toDigits 10 d.digits).rtakeWhile (· == '0')).length '0' :=
    List.eq_replicate_iff.mpr ⟨rfl, fun _ mem => by simpa using List.mem_rtakeWhile_imp mem⟩
  have split := List.rdropWhile_append_rtakeWhile (p := (· == '0')) (l := Nat.toDigits 10 d.digits)
  rw [ends] at split
  generalize ((Nat.toDigits 10 d.digits).rtakeWhile (· == '0')).length = zeros at split
  have split : Nat.toDigits 10 d.digits = d.figures.digits ++ List.replicate zeros '0' := split.symm
  refine ⟨zeros, split, ?_, ?_⟩
  · have value := congrArg (Nat.ofDigitChars 10 · 0) split
    simp only [Nat.ofDigitChars_ten_toDigits, Nat.ofDigitChars_append,
      Nat.ofDigitChars_replicate_zero] at value
    rw [value, Nat.mul_comm]
    rfl
  · have length := congrArg List.length split
    rw [List.length_append, List.length_replicate] at length
    change ((Nat.toDigits 10 d.digits).length + d.exponent : Int) - _ = _
    omega

theorem figures_hits {rank : Nat} : d.figures.decimal.Hits rank ↔ d.Hits rank := by
  obtain ⟨zeros, -, digits, exponent⟩ := d.exists_figures_zeros
  have whole : d = ⟨d.figures.value * tenTo zeros, d.exponent⟩ := by
    rw [← digits]
  rw [whole, hits_shift, ← exponent, ← whole]
  rfl

theorem figures_value_le (d : Decimal) : d.figures.value ≤ d.digits := by
  obtain ⟨zeros, -, digits, -⟩ := d.exists_figures_zeros
  rw [digits]
  exact Nat.le_mul_of_pos_right _ (tenTo_pos zeros)

theorem figures_value_pos (positive : 0 < d.digits) : 0 < d.figures.value := by
  obtain ⟨zeros, -, digits, -⟩ := d.exists_figures_zeros
  exact Nat.pos_of_mul_pos_right (digits ▸ positive)

theorem figures_proper (positive : 0 < d.digits) : d.figures.Proper := by
  obtain ⟨zeros, split, digits, -⟩ := d.exists_figures_zeros
  refine ⟨fun c mem => Text.isDigit_of_mem_toDigits (split ▸ List.mem_append_left _ mem), ?_,
    figures_value_pos positive, ?_⟩
  · cases all : d.figures.digits with
    | nil =>
      have none : d.figures.value = 0 := by rw [Figures.value, all]; rfl
      exact absurd none (figures_value_pos positive).ne'
    | cons c tail =>
      refine ⟨c, tail, rfl, ?_⟩
      rintro rfl
      have head := Text.head?_toDigits positive
      rw [split, all] at head
      exact head rfl
  · have width : d.digits < tenTo (Nat.toDigits 10 d.digits).length :=
      (Nat.length_toDigits_le_iff (by decide) Nat.length_toDigits_pos).mp le_rfl
    rw [split, List.length_append, List.length_replicate, tenTo_add] at width
    nth_rewrite 1 [digits] at width
    exact Nat.lt_of_mul_lt_mul_right width

end Decimal

end Verdict.Binary64
