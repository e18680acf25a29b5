import Verdict.Text.Units

set_option autoImplicit false

namespace Verdict.Text

theorem charUnits_ne_nil (c : Char) : charUnits c ≠ [] := by
  dsimp only [charUnits]
  split <;> exact List.cons_ne_nil _ _

-- A surrogate stands for no scalar, so as a first unit it says that another one belongs to it.
theorem charUnits_append_inj {c d : Char} {rest more : List Nat}
    (h : charUnits c ++ rest = charUnits d ++ more) : c = d ∧ rest = more := by
  have scalar (c : Char) : c.toNat < 0xd800 ∨ 0xdfff < c.toNat ∧ c.toNat < 0x110000 := c.valid
  have first := scalar c
  have second := scalar d
  rw [← Char.toNat_inj]
  dsimp only [charUnits] at h
  split at h <;> split at h <;>
    simp only [List.cons_append, List.nil_append, List.cons.injEq] at h
  · exact h
  · omega
  · omega
  · exact ⟨by omega, h.2.2⟩

theorem units_injective {s t : List Char} (h : units s = units t) : s = t := by
  induction s generalizing t with
  | nil =>
    cases t with
    | nil => rfl
    | cons d t => exact absurd h.symm (List.append_ne_nil_of_left_ne_nil (charUnits_ne_nil d) _)
  | cons c s ih =>
    cases t with
    | nil => exact absurd h (List.append_ne_nil_of_left_ne_nil (charUnits_ne_nil c) _)
    | cons d t =>
      obtain ⟨rfl, rest⟩ := charUnits_append_inj h
      rw [ih rest]

instance : Std.TransCmp compareUnits where
  eq_swap {a b} := by
    change compare (units a.toList) (units b.toList) = _
    exact Std.OrientedCmp.eq_swap
  isLE_trans {a b c} := by
    change (compare (units a.toList) (units b.toList)).isLE → _
    exact Std.TransCmp.isLE_trans

instance : Std.LawfulEqCmp compareUnits where
  compare_self {a} := by
    change compare (units a.toList) _ = _
    exact Std.ReflCmp.compare_self
  eq_of_compare {a b} h := by
    change compare (units a.toList) (units b.toList) = _ at h
    exact String.toList_inj.mp (units_injective (Std.LawfulEqCmp.eq_of_compare h))

end Verdict.Text
