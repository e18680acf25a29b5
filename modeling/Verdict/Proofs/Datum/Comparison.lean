import Verdict.Proofs.Datum.Equality
import Verdict.Proofs.Text.Units

set_option autoImplicit false

namespace Verdict.Datum

inductive Ordered : Datum → Datum → Prop where
  | num (a b : Number) : Ordered (.num a) (.num b)
  | str (s t : String) : Ordered (.str s) (.str t)

section Order

variable {x y z : Datum}

theorem Ordered.symm (h : Ordered x y) : Ordered y x := by
  cases h <;> constructor

theorem compareOrder_of_not_ordered (apart : ¬Ordered x y) : compareOrder x y = none := by
  unfold compareOrder
  split
  · exact absurd (.num _ _) apart
  · exact absurd (.str _ _) apart
  · rfl

theorem compareOrder_swap (x y : Datum) : compareOrder y x = (compareOrder x y).map Ordering.swap := by
  by_cases h : Ordered x y
  · cases h with
    | num a b => exact congrArg some Std.OrientedCmp.eq_swap
    | str s t => exact congrArg some Std.OrientedCmp.eq_swap
  · rw [compareOrder_of_not_ordered h, compareOrder_of_not_ordered fun back => h back.symm]
    rfl

theorem Ordered.equals_eq (h : Ordered x y) :
    ∃ order, compareOrder x y = some order ∧ equals x y = (order == .eq) := by
  cases h with
  | num a b =>
    refine ⟨_, rfl, ?_⟩
    change (a.toBinary64.key == b.toBinary64.key) = _
    rw [Bool.eq_iff_iff, beq_iff_eq, beq_iff_eq, Std.LawfulEqCmp.compare_eq_iff_eq]
  | str s t =>
    refine ⟨_, rfl, ?_⟩
    change (s.toList == t.toList) = _
    rw [Bool.eq_iff_iff, beq_iff_eq, beq_iff_eq, Std.LawfulEqCmp.compare_eq_iff_eq, String.toList_inj]

theorem Ordered.compareOrder_trans (xy : Ordered x y) (yz : Ordered y z) :
    ∃ first second both, compareOrder x y = some first ∧ compareOrder y z = some second ∧
      compareOrder x z = some both ∧ (first = .lt → second = .lt → both = .lt) ∧
      (first.isLE → second.isLE → both.isLE) := by
  cases xy with
  | num a b =>
    cases yz with
    | num _ c => exact ⟨_, _, _, rfl, rfl, rfl, Std.TransCmp.lt_trans, Std.TransCmp.isLE_trans⟩
  | str s t =>
    cases yz with
    | str _ u => exact ⟨_, _, _, rfl, rfl, rfl, Std.TransCmp.lt_trans, Std.TransCmp.isLE_trans⟩

end Order

section Operators

variable (patterns : Patterns) {x y z : Datum}

theorem compareBy_gt_eq (x y : Datum) : compareBy patterns .gt x y = compareBy patterns .lt y x := by
  rw [compareBy, compareBy, compareOrder_swap x y]
  rcases compareOrder x y with _ | order
  · rfl
  · cases order <;> rfl

theorem compareBy_ge_eq (hx : x.KeysDistinct) (hy : y.KeysDistinct) :
    compareBy patterns .ge x y = compareBy patterns .le y x := by
  have strict := compareBy_gt_eq patterns x y
  simp only [compareBy] at strict ⊢
  rw [equals_comm hx hy, strict]

theorem Ordered.compareBy_eq {order : Ordering} (h : Ordered x y) (found : compareOrder x y = some order) :
    compareBy patterns .lt x y = (order == .lt) ∧ compareBy patterns .eq x y = (order == .eq) ∧
      compareBy patterns .gt x y = (order == .gt) ∧ compareBy patterns .ge x y = order.isGE ∧
      compareBy patterns .le x y = order.isLE := by
  obtain ⟨_, same, equal⟩ := h.equals_eq
  cases found.symm.trans same
  simp only [compareBy, found, equal]
  cases order <;> decide

theorem compareBy_of_not_ordered (apart : ¬Ordered x y) :
    compareBy patterns .lt x y = false ∧ compareBy patterns .gt x y = false ∧
      compareBy patterns .ge x y = compareBy patterns .eq x y ∧
      compareBy patterns .le x y = compareBy patterns .eq x y := by
  simp [compareBy, compareOrder_of_not_ordered apart]

theorem Ordered.compareBy_trichotomy (h : Ordered x y) :
    [compareBy patterns .lt x y, compareBy patterns .eq x y, compareBy patterns .gt x y].count true = 1 ∧
      compareBy patterns .ge x y = !compareBy patterns .lt x y ∧
      compareBy patterns .le x y = !compareBy patterns .gt x y := by
  obtain ⟨order, found, -⟩ := h.equals_eq
  obtain ⟨lt, eq, gt, ge, le⟩ := h.compareBy_eq patterns found
  rw [lt, eq, gt, ge, le]
  cases order <;> decide

theorem Ordered.compareBy_trans (xy : Ordered x y) (yz : Ordered y z) :
    (compareBy patterns .lt x y → compareBy patterns .lt y z → compareBy patterns .lt x z) ∧
      (compareBy patterns .le x y → compareBy patterns .le y z → compareBy patterns .le x z) := by
  have xz : Ordered x z := by
    cases xy <;> cases yz <;> constructor
  obtain ⟨first, second, both, found, found', found'', strict, weak⟩ := xy.compareOrder_trans yz
  obtain ⟨lt, -, -, -, le⟩ := xy.compareBy_eq patterns found
  obtain ⟨lt', -, -, -, le'⟩ := yz.compareBy_eq patterns found'
  obtain ⟨lt'', -, -, -, le''⟩ := xz.compareBy_eq patterns found''
  rw [lt, lt', lt'', le, le', le'']
  simp only [beq_iff_eq]
  exact ⟨strict, weak⟩

end Operators

/-- Loose equality is symmetric and reflexive, though not transitive. So membership finds what is there,
and to swap two operands changes nothing for `==` and `!=`. It turns `>=` into `<=`, which is the same
unless both operands are numbers or both are strings. -/
theorem equals_symmetric_reflexive (patterns : Patterns) (x y : Value) :
    equals x y = equals y x ∧ equals x x = true ∧
      (∀ elements, x.datum ∈ elements → compareBy patterns .contains (.arr elements) x = true ∧
        compareBy patterns .isIn x (.arr elements) = true) ∧
      compareBy patterns .eq x y = compareBy patterns .eq y x ∧
      compareBy patterns .ne x y = compareBy patterns .ne y x ∧
      compareBy patterns .ge x y = compareBy patterns .le y x ∧
      (¬Ordered x y → compareBy patterns .ge x y = compareBy patterns .ge y x ∧
        compareBy patterns .le x y = compareBy patterns .le y x) := by
  obtain ⟨x, hx⟩ := x
  obtain ⟨y, hy⟩ := y
  have symm := equals_comm hx hy
  refine ⟨symm, equals_refl hx, ?_, symm, congrArg not symm, compareBy_ge_eq patterns hx hy, ?_⟩
  · exact fun elements mem => ⟨contains_of_mem hx mem, contains_of_mem hx mem⟩
  · intro apart
    obtain ⟨-, -, ge, le⟩ := compareBy_of_not_ordered patterns apart
    have same : compareBy patterns .ge x y = compareBy patterns .le x y := ge.trans le.symm
    have swapped := compareBy_ge_eq patterns hx hy
    have swapped' := compareBy_ge_eq patterns hy hx
    exact ⟨same.trans swapped'.symm, same.symm.trans swapped⟩

theorem equals_symmetric_reflexive_of_converted :
    let x : Value :=
      ⟨.obj [("a", .arr [.num .one]), ("b", .str "0x1")], keysDistinct_of_canonical rfl⟩
    let y : Value := ⟨.obj [("a", .num .one), ("b", .bool true)], keysDistinct_of_canonical rfl⟩
    let patterns : Patterns := fun _ => none
    ¬Ordered x y ∧ equals x y = true ∧ equals y x = true ∧
      compareBy patterns .isIn x (.arr [.null, x]) = true ∧
      compareBy patterns .ge x y = compareBy patterns .ge y x := by
  intro x y patterns
  have equal : equals x y = true := by decide +kernel
  obtain ⟨symm, -, found, -, -, -, sides⟩ := equals_symmetric_reflexive patterns x y
  have apart : ¬Ordered x y := nofun
  have present := (found [.null, x] (List.mem_cons_of_mem _ List.mem_cons_self)).2
  exact ⟨apart, equal, symm ▸ equal, present, (sides apart).1⟩

/-- The six operators belong to one order, which is linear on numbers and on strings; two data of any
other kinds may be equal and are not ordered. -/
theorem compareBy_consistent (patterns : Patterns) (x y : Value) (z : Datum) :
    compareBy patterns .gt x y = compareBy patterns .lt y x ∧
      compareBy patterns .ge x y = compareBy patterns .le y x ∧
      compareBy patterns .ne x y = !compareBy patterns .eq x y ∧
      (Ordered x y →
        [compareBy patterns .lt x y, compareBy patterns .eq x y, compareBy patterns .gt x y].count true = 1 ∧
        compareBy patterns .ge x y = !compareBy patterns .lt x y ∧
        compareBy patterns .le x y = !compareBy patterns .gt x y) ∧
      (Ordered x y → Ordered y z →
        (compareBy patterns .lt x y → compareBy patterns .lt y z → compareBy patterns .lt x z) ∧
        (compareBy patterns .le x y → compareBy patterns .le y z → compareBy patterns .le x z)) ∧
      (¬Ordered x y → compareBy patterns .lt x y = false ∧ compareBy patterns .gt x y = false ∧
        compareBy patterns .ge x y = compareBy patterns .eq x y ∧
        compareBy patterns .le x y = compareBy patterns .eq x y) :=
  ⟨compareBy_gt_eq patterns x y, compareBy_ge_eq patterns x.keysDistinct y.keysDistinct, rfl,
    fun h => h.compareBy_trichotomy patterns, fun xy yz => xy.compareBy_trans patterns yz,
    compareBy_of_not_ordered patterns⟩

theorem compareBy_consistent_of_surrogates :
    let x : Value := ⟨.str "😀", .str _⟩
    let y : Value := ⟨.str "｡", .str _⟩
    let z : Datum := .str "｡😀"
    let patterns : Patterns := fun _ => none
    Ordered x y ∧ Ordered y z ∧
      compareBy patterns .lt x y = true ∧ compareBy patterns .lt y z = true ∧
      compareBy patterns .lt x z = true ∧ compareBy patterns .ge x y = false ∧
      compareBy patterns .gt y x = true := by
  intro x y z patterns
  have xy : Ordered x y := .str _ _
  have yz : Ordered y z := .str _ _
  have first : compareBy patterns .lt x y = true := by decide +kernel
  have second : compareBy patterns .lt y z = true := by decide +kernel
  obtain ⟨-, -, -, linear, trans, -⟩ := compareBy_consistent patterns x y z
  obtain ⟨mirrored, -⟩ := compareBy_consistent patterns y x z
  exact ⟨xy, yz, first, second, (trans xy yz).1 first second,
    (linear xy).2.1.trans (congrArg not first), mirrored.trans first⟩

end Verdict.Datum
