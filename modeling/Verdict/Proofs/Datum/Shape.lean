import Verdict.Datum.Basic

set_option autoImplicit false

namespace Verdict.Datum

mutual

def nesting : Datum → Nat
  | .arr xs => 1 + nestingList xs
  | .obj ms => 1 + nestingMembers ms
  | .null | .bool _ | .num _ | .str _ => 0

def nestingList : List Datum → Nat
  | [] => 0
  | d :: rest => max (nesting d) (nestingList rest)

def nestingMembers : List (String × Datum) → Nat
  | [] => 0
  | (_, d) :: rest => max (nesting d) (nestingMembers rest)

end

theorem nestingList_le {xs : List Datum} {depth : Nat} :
    nestingList xs ≤ depth ↔ ∀ d ∈ xs, d.nesting ≤ depth := by
  induction xs with
  | nil => simp [nestingList]
  | cons d rest ih => simp only [nestingList, Nat.max_le, ih, List.mem_cons, forall_eq_or_imp]

theorem nestingMembers_le {ms : List (String × Datum)} {depth : Nat} :
    nestingMembers ms ≤ depth ↔ ∀ m ∈ ms, m.2.nesting ≤ depth := by
  induction ms with
  | nil => simp [nestingMembers]
  | cons m rest ih => simp only [nestingMembers, Nat.max_le, ih, List.mem_cons, forall_eq_or_imp]

/-- No number at any depth is a float. -/
inductive Floatless : Datum → Prop where
  | null : Floatless .null
  | bool (b : Bool) : Floatless (.bool b)
  | int (i : Int) (fits : -0x8000000000000000 ≤ i ∧ i < 0x10000000000000000) :
      Floatless (.num (.int i fits))
  | str (s : String) : Floatless (.str s)
  | arr {elements : List Datum} : (∀ d ∈ elements, Floatless d) → Floatless (.arr elements)
  | obj {members : List (String × Datum)} :
      (∀ m ∈ members, Floatless m.2) → Floatless (.obj members)

end Verdict.Datum
