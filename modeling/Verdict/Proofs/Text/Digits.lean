set_option autoImplicit false

namespace Verdict.Text

theorem isDigit_of_mem_toDigits {n : Nat} {c : Char} (mem : c ∈ Nat.toDigits 10 n) : c.isDigit :=
  Nat.isDigit_of_mem_toDigits (by decide) (Nat.le_refl 10) mem

theorem exists_digitChar_of_mem_toDigits {base n : Nat} {c : Char} (large : 1 < base)
    (mem : c ∈ Nat.toDigits base n) : ∃ d < base, c = d.digitChar := by
  induction n using Nat.strongRecOn with
  | ind n ih =>
    rcases Nat.lt_or_ge n base with small | more
    · rw [Nat.toDigits_of_lt_base small] at mem
      exact ⟨n, small, List.mem_singleton.mp mem⟩
    · rw [Nat.toDigits_of_base_le large more] at mem
      rcases List.mem_append.mp mem with mem | mem
      · exact ih (n / base) (Nat.div_lt_self (by omega) large) mem
      · exact ⟨n % base, Nat.mod_lt n (by omega), List.mem_singleton.mp mem⟩

theorem toDigits_eq_cons (n : Nat) :
    ∃ c tail, Nat.toDigits 10 n = c :: tail ∧ c.isDigit := by
  cases digits : Nat.toDigits 10 n with
  | nil => exact absurd digits Nat.toDigits_ne_nil
  | cons c tail => exact ⟨c, tail, rfl, isDigit_of_mem_toDigits (digits ▸ List.mem_cons_self)⟩

theorem head?_toDigits {n : Nat} (positive : 0 < n) : (Nat.toDigits 10 n).head? ≠ some '0' := by
  induction n using Nat.strongRecOn with
  | ind n ih =>
    rcases Nat.lt_or_ge n 10 with small | large
    · have digit : ∀ m < 10, 0 < m → m.digitChar ≠ '0' := by decide
      rw [Nat.toDigits_of_lt_base small]
      simpa using digit n small positive
    · have head := ih (n / 10) (by omega) (by omega)
      obtain ⟨c, tail, digits, _⟩ := toDigits_eq_cons (n / 10)
      rw [Nat.toDigits_of_base_le (by decide) large, digits]
      rwa [digits] at head

end Verdict.Text
