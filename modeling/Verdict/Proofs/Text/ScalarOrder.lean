import Verdict.Datum.Compare
import Verdict.Proofs.Text.Units

set_option autoImplicit false

namespace Verdict

namespace Text

def IsHigh (c : Char) : Prop := 0xe000 ≤ c.toNat ∧ c.toNat ≤ 0xffff

instance (c : Char) : Decidable (IsHigh c) := inferInstanceAs (Decidable (_ ∧ _))

def IsWide (c : Char) : Prop := 0xffff < c.toNat

instance (c : Char) : Decidable (IsWide c) := inferInstanceAs (Decidable (_ < _))

def unitRank (c : Char) : Nat := if IsHigh c then c.toNat + 0x110000 else c.toNat

/-- A high scalar beside a wide one. -/
def Crossed (c d : Char) : Prop := IsHigh c ∧ IsWide d ∨ IsWide c ∧ IsHigh d

instance (c d : Char) : Decidable (Crossed c d) := inferInstanceAs (Decidable (_ ∨ _))

/-- Comparing two texts scalar by scalar, up to the first difference, gets to `c` and `d`. -/
inductive Meets (c d : Char) : List Char → List Char → Prop where
  | here (s t : List Char) : Meets c d (c :: s) (d :: t)
  | after (e : Char) {s t : List Char} : Meets c d s t → Meets c d (e :: s) (e :: t)

section Ranks

variable {c d : Char}

theorem unitRank_cases (c : Char) :
    c.toNat < 0xd800 ∧ unitRank c = c.toNat ∨
      (0xe000 ≤ c.toNat ∧ c.toNat ≤ 0xffff) ∧ unitRank c = c.toNat + 0x110000 ∨
      (0xffff < c.toNat ∧ c.toNat < 0x110000) ∧ unitRank c = c.toNat := by
  have scalar : c.toNat < 0xd800 ∨ 0xdfff < c.toNat ∧ c.toNat < 0x110000 := c.valid
  unfold unitRank
  split
  · next high => exact .inr (.inl ⟨high, rfl⟩)
  · next other =>
    unfold IsHigh at other
    omega

theorem unitRank_injective (same : unitRank c = unitRank d) : c = d := by
  have first := unitRank_cases c
  have second := unitRank_cases d
  rw [← Char.toNat_inj]
  omega

theorem compare_eq_compare_iff {m n m' n' : Nat} :
    compare m n = compare m' n' ↔ (m < n ↔ m' < n') ∧ (n < m ↔ n' < m') := by
  rw [← Nat.compare_eq_lt, ← Nat.compare_eq_lt, ← Nat.compare_eq_gt, ← Nat.compare_eq_gt]
  cases compare m n <;> cases compare m' n' <;> decide

theorem compare_unitRank_eq_iff :
    compare (unitRank c) (unitRank d) = compare c.toNat d.toNat ↔ ¬Crossed c d := by
  have first := unitRank_cases c
  have second := unitRank_cases d
  rw [compare_eq_compare_iff]
  unfold Crossed IsWide IsHigh
  omega

end Ranks

section Units

variable {m n : Nat} {c d : Char}

theorem compare_cons_of_lt (less : m < n) (rest more : List Nat) :
    compare (m :: rest) (n :: more) = .lt := by
  rw [List.compare_cons_cons, Nat.compare_eq_lt.mpr less, Ordering.lt_then]

theorem compare_append_left (units rest more : List Nat) :
    compare (units ++ rest) (units ++ more) = compare rest more := by
  induction units with
  | nil => rfl
  | cons n units ih =>
    rw [List.cons_append, List.cons_append, List.compare_cons_cons, Nat.compare_eq_eq.mpr rfl,
      Ordering.eq_then, ih]

theorem compare_charUnits_of_lt (before : unitRank c < unitRank d) (rest more : List Nat) :
    compare (charUnits c ++ rest) (charUnits d ++ more) = .lt := by
  have first := unitRank_cases c
  have second := unitRank_cases d
  dsimp only [charUnits]
  split <;> split
  · exact compare_cons_of_lt (by omega) _ _
  · exact compare_cons_of_lt (by omega) _ _
  · exact compare_cons_of_lt (by omega) _ _
  · by_cases lead : (c.toNat - 0x10000) / 0x400 = (d.toNat - 0x10000) / 0x400
    · rw [lead]
      exact (compare_append_left [_] _ _).trans (compare_cons_of_lt (by omega) _ _)
    · exact compare_cons_of_lt (by omega) _ _

theorem compare_units_cons (c d : Char) (s t : List Char) :
    compare (units (c :: s)) (units (d :: t)) =
      (compare (unitRank c) (unitRank d)).then (compare (units s) (units t)) := by
  unfold units
  rw [List.flatMap_cons, List.flatMap_cons]
  rcases Nat.lt_trichotomy (unitRank c) (unitRank d) with less | same | greater
  · rw [compare_charUnits_of_lt less, Nat.compare_eq_lt.mpr less, Ordering.lt_then]
  · obtain rfl := unitRank_injective same
    rw [compare_append_left, Nat.compare_eq_eq.mpr rfl, Ordering.eq_then]
  · rw [Std.OrientedOrd.eq_swap, compare_charUnits_of_lt greater, Nat.compare_eq_gt.mpr greater,
      Ordering.gt_then, Ordering.swap_lt]

theorem compare_nil_units_cons (c : Char) (s : List Char) : compare [] (units (c :: s)) = .lt := by
  have nonempty : units (c :: s) ≠ [] := List.append_ne_nil_of_left_ne_nil (charUnits_ne_nil c) _
  obtain ⟨n, rest, first⟩ := List.exists_cons_of_ne_nil nonempty
  rw [first, List.compare_nil_cons]

theorem compare_units (s t : List Char) :
    compare (units s) (units t) = compare (s.map unitRank) (t.map unitRank) := by
  induction s generalizing t with
  | nil =>
    cases t with
    | nil => rfl
    | cons d t => exact compare_nil_units_cons d t
  | cons c s ih =>
    cases t with
    | nil =>
      rw [Std.OrientedOrd.eq_swap]
      exact congrArg Ordering.swap (compare_nil_units_cons c s)
    | cons d t => rw [compare_units_cons, ih, List.map_cons, List.map_cons, List.compare_cons_cons]

theorem compareUnits_of_prefix {a b : String} (start : a.toList <+: b.toList) (proper : a ≠ b) :
    compareUnits a b = .lt := by
  obtain ⟨more, text⟩ := start
  cases more with
  | nil =>
    rw [List.append_nil, String.toList_inj] at text
    exact absurd text proper
  | cons c more =>
    calc compare (units a.toList) (units b.toList)
        = compare (units a.toList ++ []) (units a.toList ++ units (c :: more)) := by
          rw [← text, List.append_nil, units, units, List.flatMap_append]
          rfl
      _ = compare [] (units (c :: more)) := compare_append_left _ _ _
      _ = .lt := compare_nil_units_cons c more

end Units

section CodePoints

theorem not_crossed_self (c : Char) : ¬Crossed c c := by
  unfold Crossed IsWide IsHigh
  omega

theorem Meets.cons_iff {x y c d : Char} {s t : List Char} :
    Meets x y (c :: s) (d :: t) ↔ x = c ∧ y = d ∨ c = d ∧ Meets x y s t := by
  constructor
  · intro meets
    cases meets with
    | here => exact .inl ⟨rfl, rfl⟩
    | after _ meets => exact .inr ⟨rfl, meets⟩
  · rintro (⟨rfl, rfl⟩ | ⟨rfl, meets⟩)
    · exact .here s t
    · exact meets.after c

theorem uncrossed_cons_iff {c d : Char} {s t : List Char} :
    (∀ x y, Meets x y (c :: s) (d :: t) → ¬Crossed x y) ↔
      ¬Crossed c d ∧ (c = d → ∀ x y, Meets x y s t → ¬Crossed x y) := by
  simp only [Meets.cons_iff]
  constructor
  · intro apart
    exact ⟨apart c d (.inl ⟨rfl, rfl⟩), fun same x y later => apart x y (.inr ⟨same, later⟩)⟩
  · rintro ⟨here, apart⟩ x y (⟨rfl, rfl⟩ | ⟨same, later⟩)
    · exact here
    · exact apart same x y later

theorem then_of_ne_eq {first second : Ordering} (decided : first ≠ .eq) :
    first.then second = first := by
  cases first with
  | lt | gt => rfl
  | eq => exact absurd rfl decided

/-- No high scalar may be compared with a wide one before the comparison is decided. -/
theorem compare_unitRanks_eq_iff (s t : List Char) :
    compare (s.map unitRank) (t.map unitRank) = compare (s.map Char.toNat) (t.map Char.toNat) ↔
      ∀ c d, Meets c d s t → ¬Crossed c d := by
  induction s generalizing t with
  | nil => cases t <;> exact ⟨fun _ _ _ => nofun, fun _ => rfl⟩
  | cons c s ih =>
    cases t with
    | nil => exact ⟨fun _ _ _ => nofun, fun _ => rfl⟩
    | cons d t =>
      rw [uncrossed_cons_iff, List.map_cons, List.map_cons, List.map_cons, List.map_cons,
        List.compare_cons_cons, List.compare_cons_cons]
      by_cases same : c = d
      · subst same
        rw [Nat.compare_eq_eq.mpr rfl, Nat.compare_eq_eq.mpr rfl, Ordering.eq_then, Ordering.eq_then, ih]
        simp only [not_crossed_self, not_false_eq_true, forall_const, true_and]
      · have decided : compare (unitRank c) (unitRank d) ≠ .eq :=
          fun equal => same (unitRank_injective (Nat.compare_eq_eq.mp equal))
        have decided' : compare c.toNat d.toNat ≠ .eq :=
          fun equal => same (Char.toNat_inj.mp (Nat.compare_eq_eq.mp equal))
        rw [then_of_ne_eq decided, then_of_ne_eq decided', compare_unitRank_eq_iff]
        simp only [same, false_implies, and_true]

end CodePoints

end Text

namespace Datum

open Text

/-- Strings are ordered scalar by scalar, the high scalars after all others. So equal strings are the
same, a string comes after those it begins with, and the order is the one of the code points unless a
high scalar is compared with a wide one. -/
theorem compareOrder_str (a b : String) :
    compareOrder (.str a) (.str b) =
        some (compare (a.toList.map unitRank) (b.toList.map unitRank)) ∧
      (compareOrder (.str a) (.str b) = some .eq ↔ a = b) ∧
      (a.toList <+: b.toList → a ≠ b → compareOrder (.str a) (.str b) = some .lt) ∧
      (compareOrder (.str a) (.str b) =
          some (compare (a.toList.map Char.toNat) (b.toList.map Char.toNat)) ↔
        ∀ c d, Meets c d a.toList b.toList → ¬Crossed c d) := by
  have ranks : compareUnits a b = compare (a.toList.map unitRank) (b.toList.map unitRank) :=
    compare_units a.toList b.toList
  simp only [compareOrder, Option.some.injEq]
  refine ⟨ranks, Std.LawfulEqCmp.compare_eq_iff_eq, compareUnits_of_prefix, ?_⟩
  rw [ranks]
  exact compare_unitRanks_eq_iff a.toList b.toList

theorem compareOrder_str_of_emoji :
    "a".toList <+: "a😀".toList ∧ "a" ≠ "a😀" ∧
      compareOrder (.str "a") (.str "a😀") = some .lt ∧
      (∀ c d, Meets c d "é😀".toList "é𝄞".toList → ¬Crossed c d) ∧
      compareOrder (.str "é😀") (.str "é𝄞") =
        some (compare ("é😀".toList.map Char.toNat) ("é𝄞".toList.map Char.toNat)) ∧
      Meets '😀' '｡' "a😀".toList "a｡".toList ∧ Crossed '😀' '｡' ∧
      compareOrder (.str "a😀") (.str "a｡") = some .lt ∧
      compareOrder (.str "a😀") (.str "a｡") ≠
        some (compare ("a😀".toList.map Char.toNat) ("a｡".toList.map Char.toNat)) := by
  have start : "a".toList <+: "a😀".toList := by decide
  have proper : "a" ≠ "a😀" := by decide
  have uncrossed : ∀ c d, Meets c d "é😀".toList "é𝄞".toList → ¬Crossed c d := by
    intro c d meets
    rcases Meets.cons_iff.mp meets with ⟨rfl, rfl⟩ | ⟨-, meets⟩
    · decide
    · rcases Meets.cons_iff.mp meets with ⟨rfl, rfl⟩ | ⟨-, meets⟩
      · decide
      · cases meets
  have meets : Meets '😀' '｡' "a😀".toList "a｡".toList := .after 'a' (.here [] [])
  have crossed : Crossed '😀' '｡' := by decide
  obtain ⟨-, -, less, -⟩ := compareOrder_str "a" "a😀"
  obtain ⟨-, -, -, agree⟩ := compareOrder_str "é😀" "é𝄞"
  obtain ⟨ranks, -, -, agree'⟩ := compareOrder_str "a😀" "a｡"
  exact ⟨start, proper, less start proper, uncrossed, agree.mpr uncrossed, meets, crossed,
    ranks.trans (by decide), fun same => agree'.mp same _ _ meets crossed⟩

end Datum

end Verdict
