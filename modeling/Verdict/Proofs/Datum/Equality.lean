import Mathlib.Data.List.Perm.Subperm
import Verdict.Datum.Compare
import Verdict.Proofs.Datum.Order

set_option autoImplicit false

namespace Verdict.Datum

theorem Weight.equals_comm (a b : Weight) : a.equals b = b.equals a := by
  cases a <;> cases b <;> first | exact Bool.beq_comm | rfl

theorem looseEquals_comm (x y : Datum) : looseEquals x y = looseEquals y x := by
  unfold looseEquals
  cases weight? x <;> cases weight? y <;> first | exact Weight.equals_comm _ _ | rfl

def isSimple : Datum → Bool
  | .arr _ | .obj _ => false
  | _ => true

theorem equals_of_isSimple {x y : Datum} (h : x.isSimple ∨ y.isSimple) :
    equals x y = looseEquals x y := by
  cases x <;> cases y <;> simp_all [isSimple, equals]

theorem equals_comm_of_isSimple {x y : Datum} (h : x.isSimple ∨ y.isSimple) :
    equals x y = equals y x := by
  rw [equals_of_isSimple h, equals_of_isSimple h.symm, looseEquals_comm]

theorem Weight.equals_refl (w : Weight) : w.equals w := by
  cases w <;> exact beq_self_eq_true _

theorem looseEquals_refl (x : Datum) : looseEquals x x := by
  unfold looseEquals
  cases weight? x with
  | none => rfl
  | some w => exact w.equals_refl

theorem equalsEach_refl {xs : List Datum} (h : ∀ x ∈ xs, equals x x) : equalsEach xs xs := by
  induction xs with
  | nil => rfl
  | cons x xs ih =>
    obtain ⟨first, others⟩ := List.forall_mem_cons.mp h
    rw [equalsEach, first, ih others]
    rfl

theorem equalsEach_comm {xs ys : List Datum}
    (h : ∀ x ∈ xs, ∀ y ∈ ys, equals x y = equals y x) : equalsEach xs ys = equalsEach ys xs := by
  induction xs generalizing ys with
  | nil => cases ys <;> rfl
  | cons x xs ih =>
    cases ys with
    | nil => rfl
    | cons y ys =>
      have rest := ih fun x mem y mem' => h x (List.mem_cons_of_mem _ mem) y (List.mem_cons_of_mem _ mem')
      rw [equalsEach, equalsEach, h x List.mem_cons_self y List.mem_cons_self, rest]

theorem lookup_eq_some_iff_mem {ms : List (String × Datum)} (distinct : (keys ms).Nodup)
    {key : String} {d : Datum} : ms.lookup key = some d ↔ (key, d) ∈ ms := by
  refine ⟨mem_of_lookup, fun mem => ?_⟩
  induction ms with
  | nil => cases mem
  | cons m rest ih =>
    obtain ⟨k, e⟩ := m
    obtain ⟨fresh, others⟩ := List.nodup_cons.mp distinct
    rcases List.mem_cons.mp mem with same | mem
    · cases same
      exact lookup_cons_self _ _ _
    · have apart : k ≠ key := fun same => fresh (List.mem_map.mpr ⟨_, mem, same.symm⟩)
      rw [lookup_cons_ne apart, ih others mem]

theorem membersWithin_iff {ms ns : List (String × Datum)} (distinct : (keys ns).Nodup) :
    membersWithin ms ns ↔ ∀ m ∈ ms, ∃ y, (m.1, y) ∈ ns ∧ equals m.2 y := by
  induction ms with
  | nil => simp [membersWithin]
  | cons m rest ih =>
    obtain ⟨key, x⟩ := m
    rw [membersWithin, Bool.and_eq_true, ih, List.forall_mem_cons]
    refine and_congr_left fun _ => ?_
    simp only [← lookup_eq_some_iff_mem distinct]
    cases ns.lookup key <;> simp

theorem keys_subset {ms ns : List (String × Datum)} (distinct : (keys ms).Nodup)
    (same : ms.length = ns.length) (within : ∀ m ∈ ms, ∃ y, (m.1, y) ∈ ns) :
    keys ns ⊆ keys ms := by
  have sub : keys ms ⊆ keys ns := by
    intro key mem
    obtain ⟨m, at_, rfl⟩ := List.mem_map.mp mem
    obtain ⟨y, found⟩ := within m at_
    exact List.mem_map.mpr ⟨_, found, rfl⟩
  have perm := (distinct.subperm sub).perm_of_length_le (by simp [keys, same])
  exact perm.symm.subset

theorem membersWithin_symm {ms ns : List (String × Datum)} (distinct : (keys ms).Nodup)
    (distinct' : (keys ns).Nodup) (same : ms.length = ns.length)
    (h : ∀ m ∈ ms, ∀ n ∈ ns, equals m.2 n.2 → equals n.2 m.2) (within : membersWithin ms ns) :
    membersWithin ns ms := by
  rw [membersWithin_iff distinct'] at within
  rw [membersWithin_iff distinct]
  have all := keys_subset distinct same fun m mem => (within m mem).imp fun _ found => found.1
  intro n mem
  obtain ⟨m, mem', key⟩ := List.mem_map.mp (all (List.mem_map_of_mem mem))
  obtain ⟨y, found, equal⟩ := within m mem'
  have unique := (lookup_eq_some_iff_mem distinct').mpr found
  rw [key, (lookup_eq_some_iff_mem distinct').mpr mem] at unique
  cases unique
  exact ⟨m.2, key ▸ mem', h m mem' n mem equal⟩

theorem equals_comm {x y : Datum} (hx : x.KeysDistinct) (hy : y.KeysDistinct) :
    equals x y = equals y x := by
  induction hx generalizing y with
  | null | bool b | num n | str s => exact equals_comm_of_isSimple (.inl rfl)
  | @arr xs _ ih =>
    cases hy with
    | @arr ys each => exact equalsEach_comm fun x mem y mem' => ih x mem (each y mem')
    | obj _ _ => rfl
    | null | bool b | num n | str s => exact equals_comm_of_isSimple (.inr rfl)
  | @obj ms distinct _ ih =>
    cases hy with
    | @obj ns distinct' each =>
      -- the one case that needs distinct keys: as many of them, and all of the left found on the right
      have alike (m) (mem : m ∈ ms) (n) (mem' : n ∈ ns) : equals m.2 n.2 = equals n.2 m.2 :=
        ih m mem (each n mem')
      rw [equals, equals, Bool.eq_iff_iff, Bool.and_eq_true, Bool.and_eq_true, beq_iff_eq, beq_iff_eq]
      constructor
      · rintro ⟨same, within⟩
        refine ⟨same.symm, membersWithin_symm distinct distinct' same ?_ within⟩
        exact fun m mem n mem' equal => alike m mem n mem' ▸ equal
      · rintro ⟨same, within⟩
        refine ⟨same.symm, membersWithin_symm distinct' distinct same ?_ within⟩
        exact fun n mem' m mem equal => alike m mem n mem' ▸ equal
    | arr _ => rfl
    | null | bool b | num n | str s => exact equals_comm_of_isSimple (.inr rfl)

theorem equals_refl {x : Datum} (h : x.KeysDistinct) : equals x x := by
  induction h with
  | null | bool b | num n | str s =>
    rw [equals_of_isSimple (.inl rfl)]
    exact looseEquals_refl _
  | arr _ ih =>
    rw [equals]
    exact equalsEach_refl ih
  | @obj ms distinct _ ih =>
    have within : membersWithin ms ms :=
      (membersWithin_iff distinct).mpr fun m mem => ⟨m.2, mem, ih m mem⟩
    rw [equals, within, beq_self_eq_true]
    rfl

theorem contains_of_mem {x : Datum} (h : x.KeysDistinct) {elements : List Datum} (mem : x ∈ elements) :
    contains (.arr elements) x := by
  rw [contains]
  exact List.any_eq_true.mpr ⟨x, mem, equals_refl h⟩

end Verdict.Datum
