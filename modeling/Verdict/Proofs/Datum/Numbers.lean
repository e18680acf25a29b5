import Verdict.Proofs.Datum.Comparison
import Verdict.Proofs.Number.Text

set_option autoImplicit false

namespace Verdict.Datum

theorem readsAs_display (n : Number) : readsAs n.display n.toBinary64 := by
  rw [readsAs, Numeral.readTrimmed?_display n]
  exact beq_self_eq_true _

theorem equals_display (n : Number) :
    equals (.num n) (.str (displayText (.num n))) = true ∧ equals (.arr [.num n]) (.num n) = true ∧
      equals (.arr [.num n]) (.str (displayText (.num n))) = true := by
  have reads := readsAs_display n
  have text : (displayText (.num n)).toList = n.display := String.toList_ofList
  have alone : (Datum.arr [.num n]).display = n.display := rfl
  refine ⟨?_, ?_, ?_⟩
  · rw [equals_of_isSimple (.inl rfl)]
    simp only [looseEquals, weight?, Weight.equals, text, reads]
  · rw [equals_of_isSimple (.inr rfl)]
    simp only [looseEquals, weight?, Weight.equals, alone, reads]
  · rw [equals_of_isSimple (.inr rfl)]
    simp only [looseEquals, weight?, Weight.equals, text, alone, beq_self_eq_true]

section Integers

variable (patterns : Patterns) {a b : Int}
  (ha : -0x8000000000000000 ≤ a ∧ a < 0x10000000000000000)
  (hb : -0x8000000000000000 ≤ b ∧ b < 0x10000000000000000)

theorem compareBy_int_eq (smallA : a.natAbs ≤ 0x20000000000000) (smallB : b.natAbs ≤ 0x20000000000000) :
    let x : Datum := .num (.int a ha)
    let y : Datum := .num (.int b hb)
    compareBy patterns .eq x y = decide (a = b) ∧ compareBy patterns .ne x y = decide (a ≠ b) ∧
      compareBy patterns .gt x y = decide (a > b) ∧ compareBy patterns .ge x y = decide (a ≥ b) ∧
      compareBy patterns .lt x y = decide (a < b) ∧ compareBy patterns .le x y = decide (a ≤ b) := by
  intro x y
  have order : compareOrder x y = some (compare a b) :=
    congrArg some (Binary64.compare_key_ofInt smallA smallB)
  obtain ⟨lt, eq, gt, ge, le⟩ := (Ordered.num _ _).compareBy_eq patterns order
  have ne : compareBy patterns .ne x y = !compareBy patterns .eq x y := rfl
  rw [ne, lt, eq, gt, ge, le]
  rcases lt_trichotomy a b with less | rfl | greater
  · rw [compare_lt_iff_lt.mpr less]
    simp [less, less.ne, less.le, less.not_gt, less.not_ge]
  · simp
  · rw [compare_gt_iff_gt.mpr greater]
    simp [greater, greater.ne', greater.le, greater.not_gt, greater.not_ge]

theorem compareBy_int_mono (less : a ≤ b) :
    let x : Datum := .num (.int a ha)
    let y : Datum := .num (.int b hb)
    compareBy patterns .gt x y = false ∧ compareBy patterns .le x y = true := by
  intro x y
  have keys : (compare (Binary64.ofInt a).key (Binary64.ofInt b).key).isLE :=
    Std.isLE_compare.mpr (Binary64.key_ofInt_mono less)
  have order : compareOrder x y = some (compare (Binary64.ofInt a).key (Binary64.ofInt b).key) := rfl
  obtain ⟨-, -, gt, -, le⟩ := (Ordered.num _ _).compareBy_eq patterns order
  rw [gt, le]
  cases found : compare (Binary64.ofInt a).key (Binary64.ofInt b).key with
  | lt | eq => decide
  | gt =>
    rw [found] at keys
    cases keys

/-- Integers are compared as integers up to 2 ^ 53, and beyond that no comparison is inverted. -/
theorem compareBy_int :
    let x : Datum := .num (.int a ha)
    let y : Datum := .num (.int b hb)
    (a.natAbs ≤ 0x20000000000000 → b.natAbs ≤ 0x20000000000000 →
      compareBy patterns .eq x y = decide (a = b) ∧ compareBy patterns .ne x y = decide (a ≠ b) ∧
        compareBy patterns .gt x y = decide (a > b) ∧ compareBy patterns .ge x y = decide (a ≥ b) ∧
        compareBy patterns .lt x y = decide (a < b) ∧ compareBy patterns .le x y = decide (a ≤ b)) ∧
      (a < b → compareBy patterns .gt x y = false ∧ compareBy patterns .le x y = true) :=
  ⟨compareBy_int_eq patterns ha hb, fun less => compareBy_int_mono patterns ha hb less.le⟩

theorem compareBy_int_of_rounded :
    let patterns : Patterns := fun _ => none
    let least : Datum := .num (.int (-0x20000000000000) (by decide))
    let last : Datum := .num (.int 0x20000000000000 (by decide))
    let next : Datum := .num (.int 0x20000000000001 (by decide))
    compareBy patterns .lt least last = true ∧ compareBy patterns .eq least last = false ∧
      compareBy patterns .gt last next = false ∧ compareBy patterns .le last next = true ∧
      compareBy patterns .eq last next = true := by
  intro patterns least last next
  obtain ⟨exact, -⟩ := compareBy_int patterns (a := -0x20000000000000) (b := 0x20000000000000)
    (by decide) (by decide)
  obtain ⟨eq, -, -, -, lt, -⟩ := exact (by decide) (by decide)
  obtain ⟨-, kept⟩ := compareBy_int patterns (a := 0x20000000000000) (b := 0x20000000000001)
    (by decide) (by decide)
  obtain ⟨gt, le⟩ := kept (by decide)
  exact ⟨lt, eq, gt, le, by decide +kernel⟩

end Integers

end Verdict.Datum
