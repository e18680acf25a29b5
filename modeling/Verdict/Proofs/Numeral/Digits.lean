import Mathlib.Data.Nat.Digits.Defs
import Verdict.Numeral

set_option autoImplicit false

namespace Verdict.Numeral

def Spells (radix : Nat) (text : List Char) (n : Nat) : Prop :=
  text ≠ [] ∧ ∃ digits : List Nat, text.map (digitValue? radix) = digits.map some ∧
    Nat.ofDigits radix digits.reverse = n

theorem ofDigits_first (radix start d : Nat) (digits : List Nat) :
    start * radix ^ (d :: digits).length + Nat.ofDigits radix (d :: digits).reverse =
      (start * radix + d) * radix ^ digits.length + Nat.ofDigits radix digits.reverse := by
  rw [List.reverse_cons, Nat.ofDigits_append, Nat.ofDigits_singleton, List.length_reverse,
    List.length_cons, pow_succ]
  ring

theorem digitsFrom?_eq_some_iff {radix start n : Nat} {text : List Char} :
    digitsFrom? radix start text = some n ↔
      ∃ digits : List Nat, text.map (digitValue? radix) = digits.map some ∧
        start * radix ^ digits.length + Nat.ofDigits radix digits.reverse = n := by
  induction text generalizing start with
  | nil =>
    simp only [digitsFrom?, List.map_nil, Option.some.injEq]
    constructor
    · rintro rfl
      exact ⟨[], rfl, by simp⟩
    · rintro ⟨digits, same, rfl⟩
      obtain rfl := List.map_eq_nil_iff.mp same.symm
      simp
  | cons c text ih =>
    rw [digitsFrom?]
    cases value : digitValue? radix c with
    | none =>
      simp only [reduceCtorEq, List.map_cons, value, false_iff]
      rintro ⟨_ | ⟨d, digits⟩, same, -⟩ <;> cases same
    | some d =>
      simp only [ih, List.map_cons, value]
      constructor
      · rintro ⟨digits, same, rfl⟩
        exact ⟨d :: digits, by rw [same, List.map_cons], ofDigits_first radix start d digits⟩
      · rintro ⟨_ | ⟨e, digits⟩, same, rfl⟩
        · cases same
        · rw [List.map_cons, List.cons.injEq, Option.some.injEq] at same
          obtain ⟨rfl, same⟩ := same
          exact ⟨digits, same, (ofDigits_first radix start d digits).symm⟩

theorem spells_iff {radix n : Nat} {text : List Char} :
    Spells radix text n ↔ text ≠ [] ∧ digitsFrom? radix 0 text = some n := by
  rw [Spells, digitsFrom?_eq_some_iff]
  simp only [zero_mul, zero_add]

theorem digitValue?_plus {radix : Nat} (letters : radix ≤ 36) : digitValue? radix '+' = none := by
  have value : digitValue? radix '+' = if 36 < radix then some 36 else none := rfl
  rw [value, if_neg (Nat.not_lt.mpr letters)]

theorem unsigned?_eq_some_iff {radix n : Nat} (letters : radix ≤ 36) {text : List Char} :
    unsigned? radix text = some n ↔
      Spells radix text n ∨ ∃ digits, text = '+' :: digits ∧ Spells radix digits n := by
  simp only [spells_iff]
  unfold unsigned?
  split
  · simp
  · simp [digitsFrom?, digitValue?_plus letters]
  · next digits more =>
    have none : digitsFrom? radix 0 ('+' :: digits) = none := by
      rw [digitsFrom?, digitValue?_plus letters]
    have some : digits ≠ [] := fun empty => more (empty ▸ rfl)
    simp [none, some]
  · next some _ other =>
    constructor
    · exact fun read => .inl ⟨some, read⟩
    · rintro (⟨-, read⟩ | ⟨digits, plus, -⟩)
      · exact read
      · exact (other digits plus).elim

theorem word?_eq_some_iff {bits radix n : Nat} {text : List Char} :
    word? bits radix text = some n ↔ unsigned? radix text = some n ∧ n < twoTo bits := by
  rw [word?, Option.filter_eq_some_iff, decide_eq_true_iff]

section Ten

theorem digitValue?_ten (c : Char) :
    digitValue? 10 c = if c.isDigit then some (c.toNat - '0'.toNat) else none := by
  unfold digitValue?
  by_cases digit : c.isDigit
  · have value : c.toNat - '0'.toNat < 10 := by
      have bounds := Char.isDigit_iff_toNat.mp digit
      have zero : '0'.toNat = 48 := rfl
      have nine : '9'.toNat = 57 := rfl
      omega
    simp only [digit, if_true, value]
  · simp only [digit, if_false, Bool.false_eq_true]
    -- a letter stands for ten at least
    split
    · exact if_neg (by omega)
    · split <;> exact if_neg (by omega)

theorem digitsFrom?_ten {start n : Nat} {text : List Char} :
    digitsFrom? 10 start text = some n ↔ (∀ c ∈ text, c.isDigit) ∧
      text.foldl (fun value c => value * 10 + (c.toNat - '0'.toNat)) start = n := by
  induction text generalizing start with
  | nil => simp [digitsFrom?]
  | cons c text ih =>
    rw [digitsFrom?, digitValue?_ten]
    by_cases digit : c.isDigit
    · simp [digit, ih]
    · simp [digit]

theorem spells_ten_iff {n : Nat} {text : List Char} :
    Spells 10 text n ↔ text ≠ [] ∧ (∀ c ∈ text, c.isDigit) ∧ decimalValue text = n := by
  rw [spells_iff, digitsFrom?_ten]
  rfl

end Ten

end Verdict.Numeral
