import Verdict.Pattern.Language
import Verdict.Proofs.Datum.Exposure

set_option autoImplicit false

namespace Verdict.Datum

mutual

/-- The leaves of a datum in order. Only arrays have leaves other than themselves. -/
def leaves : Datum → List Datum
  | .arr xs => leavesOf xs
  | d => [d]

def leavesOf : List Datum → List Datum
  | [] => []
  | d :: rest => leaves d ++ leavesOf rest

end

/-- An array of nothing but such arrays. -/
inductive Hollow : Datum → Prop where
  | arr {elements : List Datum} : (∀ d ∈ elements, Hollow d) → Hollow (.arr elements)

/-- Elements of an array change places, an array among them gives way to its elements, or the reverse of
this, at any depth and any number of times. -/
inductive Regrouped : Datum → Datum → Prop where
  | refl (d : Datum) : Regrouped d d
  | symm {d e : Datum} : Regrouped d e → Regrouped e d
  | trans {c d e : Datum} : Regrouped c d → Regrouped d e → Regrouped c e
  | reorder {xs ys : List Datum} : xs.Perm ys → Regrouped (.arr xs) (.arr ys)
  | flatten (before inner after : List Datum) :
      Regrouped (.arr (before ++ .arr inner :: after)) (.arr (before ++ inner ++ after))
  | within (before after : List Datum) {d e : Datum} : Regrouped d e →
      Regrouped (.arr (before ++ d :: after)) (.arr (before ++ e :: after))

section Leaves

variable {d e : Datum} {xs ys : List Datum}

theorem leavesOf_eq_flatMap (xs : List Datum) : leavesOf xs = xs.flatMap leaves := by
  induction xs with
  | nil => rfl
  | cons d rest ih => rw [leavesOf, ih, List.flatMap_cons]

theorem leaves_arr (xs : List Datum) : leaves (.arr xs) = xs.flatMap leaves := by
  rw [leaves, leavesOf_eq_flatMap]

theorem anyLeafOf_eq_any (accepts : List Char → Bool) (xs : List Datum) :
    anyLeafOf accepts xs = xs.any (anyLeaf accepts) := by
  induction xs with
  | nil => rfl
  | cons d rest ih => rw [anyLeafOf, ih, List.any_cons]

theorem anyLeaf_iff {accepts : List Char → Bool} {d : Datum} :
    anyLeaf accepts d ↔ ∃ leaf ∈ d.leaves, accepts leaf.display := by
  induction d using Datum.induct with
  | null | bool | num | str | obj =>
    simp only [anyLeaf, leaves, List.mem_singleton, exists_eq_left]
  | arr xs ih =>
    rw [anyLeaf, anyLeafOf_eq_any, leaves_arr, List.any_eq_true]
    constructor
    · rintro ⟨d, mem, accepted⟩
      obtain ⟨leaf, within, accepted⟩ := (ih d mem).mp accepted
      exact ⟨leaf, List.mem_flatMap_of_mem mem within, accepted⟩
    · rintro ⟨leaf, within, accepted⟩
      obtain ⟨d, mem, within⟩ := List.mem_flatMap.mp within
      exact ⟨d, mem, (ih d mem).mpr ⟨leaf, within, accepted⟩⟩

theorem leaves_of_mem_leaves {leaf : Datum} (mem : leaf ∈ d.leaves) : leaf.leaves = [leaf] := by
  induction d using Datum.induct with
  | null | bool | num | str | obj =>
    obtain rfl := List.mem_singleton.mp mem
    rfl
  | arr xs ih =>
    rw [leaves_arr] at mem
    obtain ⟨d, mem, within⟩ := List.mem_flatMap.mp mem
    exact ih d mem within

theorem hollow_iff : d.Hollow ↔ d.leaves = [] := by
  induction d using Datum.induct with
  | null | bool | num | str | obj => exact ⟨nofun, nofun⟩
  | arr xs ih =>
    rw [leaves_arr, List.flatMap_eq_nil_iff]
    constructor
    · rintro ⟨all⟩ d mem
      exact (ih d mem).mp (all d mem)
    · exact fun none => .arr fun d mem => (ih d mem).mpr (none d mem)

theorem leaves_append (xs ys : List Datum) :
    leaves (.arr (xs ++ ys)) = leaves (.arr xs) ++ leaves (.arr ys) := by
  rw [leaves_arr, leaves_arr, leaves_arr, List.flatMap_append]

theorem Regrouped.perm_leaves (h : Regrouped d e) : d.leaves.Perm e.leaves := by
  induction h with
  | refl d => exact .refl _
  | symm _ ih => exact ih.symm
  | trans _ _ first second => exact first.trans second
  | reorder perm =>
    rw [leaves_arr, leaves_arr]
    exact perm.flatMap_right leaves
  | flatten before inner after =>
    simp only [leaves_arr, List.flatMap_append, List.flatMap_cons, List.append_assoc]
    exact .refl _
  | within before after _ ih =>
    simp only [leaves_arr, List.flatMap_append, List.flatMap_cons]
    exact (ih.append_right _).append_left _

end Leaves

theorem leaves_leaves (d : Datum) : leaves (.arr d.leaves) = d.leaves := by
  have each : ∀ leaf ∈ d.leaves, leaf.leaves = [leaf] := fun leaf => leaves_of_mem_leaves
  rw [leaves_arr, List.flatMap_congr each, List.flatMap_singleton']

section Matching

variable {patterns : Patterns} {v w p : Datum}

theorem matching_iff : matching patterns v p ↔
    ∃ source accepts, p = .str source ∧ patterns source = some accepts ∧
      ∃ leaf ∈ v.leaves, accepts leaf.display := by
  unfold matching
  split
  · next source =>
    split
    · next accepts compiled => simp [anyLeaf_iff, compiled]
    · next refused => simp [refused]
  · next other => exact ⟨nofun, fun ⟨source, _, same, _⟩ => absurd same (other source)⟩

theorem matching_congr (same : ∀ leaf, leaf ∈ v.leaves ↔ leaf ∈ w.leaves) :
    matching patterns v p = matching patterns w p := by
  rw [Bool.eq_iff_iff, matching_iff, matching_iff]
  simp only [same]

theorem matching_append (xs ys : List Datum) :
    matching patterns (.arr (xs ++ ys)) p =
      (matching patterns (.arr xs) p || matching patterns (.arr ys) p) := by
  rw [Bool.eq_iff_iff, Bool.or_eq_true, matching_iff, matching_iff, matching_iff]
  simp only [leaves_append, List.mem_append, or_and_right, exists_or, and_or_left]

theorem Hollow.matching_eq_false (h : v.Hollow) : matching patterns v p = false := by
  rw [Bool.eq_false_iff, ne_eq, matching_iff, hollow_iff.mp h]
  rintro ⟨-, -, -, -, leaf, none, -⟩
  cases none

end Matching

/-- A value matches a pattern if some leaf of it does, where a string is tested as its text, a null as
`null` and an object as the text all objects have. So an array without leaves matches nothing, the
grouping and the order of the elements do not count, and of two arrays put together one has to match. -/
theorem matching_iff_exists_leaf (patterns : Patterns) (v p : Datum) :
    (matching patterns v p ↔ ∃ source accepts, p = .str source ∧ patterns source = some accepts ∧
        ∃ leaf ∈ v.leaves, accepts leaf.display) ∧
      (∀ source accepts, patterns source = some accepts →
        (∀ s, matching patterns (.str s) (.str source) = accepts s.toList) ∧
        matching patterns .null (.str source) = accepts "null".toList ∧
        ∀ members, matching patterns (.obj members) (.str source) = accepts "[object Object]".toList) ∧
      (v.Hollow → matching patterns v p = false) ∧
      (∀ w, Regrouped v w → matching patterns w p = matching patterns v p) ∧
      matching patterns (.arr v.leaves) p = matching patterns v p ∧
      ∀ xs ys, matching patterns (.arr (xs ++ ys)) p =
        (matching patterns (.arr xs) p || matching patterns (.arr ys) p) := by
  refine ⟨matching_iff, ?_, Hollow.matching_eq_false, ?_, ?_, matching_append⟩
  · intro source accepts compiled
    have tested (d : Datum) : matching patterns d (.str source) = anyLeaf accepts d := by
      simp only [matching, compiled]
    have null : "null".toList = nullText := by decide
    exact ⟨fun s => tested (.str s), null ▸ tested .null, fun members => tested (.obj members)⟩
  · exact fun w regrouped => matching_congr fun leaf => regrouped.perm_leaves.symm.mem_iff
  · exact matching_congr fun leaf => by rw [leaves_leaves]

theorem matching_iff_exists_leaf_of_nested_null :
    let v : Datum := .arr [.arr [.str "a", .arr []], .arr [.null]]
    let w : Datum := .arr [.null, .arr [], .str "a"]
    let hollow : Datum := .arr [.arr [], .arr [.arr []]]
    Regrouped v w ∧ matching Pattern.language v (.str "^null$") = true ∧
      matching Pattern.language w (.str "^null$") = true ∧
      matching Pattern.language v (.str "a,") = false ∧
      hollow.Hollow ∧ matching Pattern.language hollow (.str "") = false := by
  intro v w hollow
  have regrouped : Regrouped v w :=
    ((Regrouped.flatten [] [.str "a", .arr []] [.arr [.null]]).trans
      (.flatten [.str "a", .arr []] [.null] [])).trans (.reorder (List.reverse_perm _).symm)
  have empty : Hollow (.arr []) := .arr (List.forall_mem_nil _)
  have none : hollow.Hollow :=
    .arr (List.forall_mem_cons.mpr ⟨empty, List.forall_mem_singleton.mpr
      (.arr (List.forall_mem_singleton.mpr empty))⟩)
  have found : matching Pattern.language v (.str "^null$") = true := by decide +kernel
  have joined : matching Pattern.language v (.str "a,") = false := by decide +kernel
  obtain ⟨-, -, -, kept, -⟩ := matching_iff_exists_leaf Pattern.language v (.str "^null$")
  obtain ⟨-, -, never, -⟩ := matching_iff_exists_leaf Pattern.language hollow (.str "")
  exact ⟨regrouped, found, (kept w regrouped).trans found, joined, none, never none⟩

end Verdict.Datum
