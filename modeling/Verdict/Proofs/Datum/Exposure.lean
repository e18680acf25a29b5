import Mathlib.Data.List.Forall2
import Verdict.Datum.Compare
import Verdict.Proofs.Datum.Equality

/-!
Data that are equal but for the signs of zeros. Comparisons do not see the sign of a zero, but its text
does show it. So it depends on how a value is looked at whether two that are equal can be told apart.
-/

set_option autoImplicit false

namespace Verdict

/-- How a value is looked at. -/
inductive Exposure where
  -- is it zero, is it the greater one
  | hidden
  -- has it got such an element or key
  | searched
  -- does it equal another one
  | equated
  | shown
deriving DecidableEq

namespace Exposure

def element : Exposure → Exposure
  | hidden => hidden
  | searched => equated
  | equated | shown => shown

def member : Exposure → Exposure
  | hidden | searched => hidden
  | equated => equated
  | shown => shown

end Exposure

section Lists

variable {α β : Type} {R : α → α → Prop} {f : α → List β} {xs ys : List α}

theorem length_flatMap_eq (h : List.Forall₂ (fun x y => (f x).length = (f y).length) xs ys) :
    (xs.flatMap f).length = (ys.flatMap f).length := by
  induction h with
  | nil => rfl
  | cons first _ rest => simp only [List.flatMap_cons, List.length_append, first, rest]

theorem flatMap_eq_of_forall₂ (h : List.Forall₂ (fun x y => f x = f y) xs ys) :
    xs.flatMap f = ys.flatMap f := by
  induction h with
  | nil => rfl
  | cons first _ rest => rw [List.flatMap_cons, List.flatMap_cons, first, rest]

theorem forall₂_of_flatMap_eq (h : List.Forall₂ R xs ys)
    (lengths : ∀ x y, R x y → (f x).length = (f y).length) (same : xs.flatMap f = ys.flatMap f) :
    List.Forall₂ (fun x y => R x y ∧ f x = f y) xs ys := by
  induction h with
  | nil => exact .nil
  | cons first _ rest =>
    rw [List.flatMap_cons, List.flatMap_cons] at same
    obtain ⟨here, there⟩ := List.append_inj same (lengths _ _ first)
    exact .cons ⟨first, here⟩ (rest there)

end Lists

namespace Datum

@[elab_as_elim]
theorem induct {motive : Datum → Prop} (null : motive .null) (bool : ∀ b, motive (.bool b))
    (num : ∀ n, motive (.num n)) (str : ∀ s, motive (.str s))
    (arr : ∀ xs, (∀ d ∈ xs, motive d) → motive (.arr xs))
    (obj : ∀ ms, (∀ m ∈ ms, motive m.2) → motive (.obj ms)) (d : Datum) : motive d := by
  refine Datum.rec (motive_1 := motive) (motive_2 := fun xs => ∀ d ∈ xs, motive d)
    (motive_3 := fun ms => ∀ m ∈ ms, motive m.2) (motive_4 := fun m => motive m.2)
    null bool num str arr obj ?_ ?_ ?_ ?_ ?_ d
  · simp
  · intro head tail here there
    simpa using ⟨here, there⟩
  · simp
  · intro head tail here there
    exact List.forall_mem_cons.mpr ⟨here, there⟩
  · exact fun _ _ => id

mutual

/-- The numbers within a value whose text can show. -/
def exposed (level : Exposure) : Datum → List Number
  | .num n => if level = .shown then [n] else []
  | .arr xs => exposedEach level.element xs
  | .obj ms => exposedMembers level.member ms
  | .null | .bool _ | .str _ => []

def exposedEach (level : Exposure) : List Datum → List Number
  | [] => []
  | d :: rest => exposed level d ++ exposedEach level rest

def exposedMembers (level : Exposure) : List (String × Datum) → List Number
  | [] => []
  | (_, d) :: rest => exposed level d ++ exposedMembers level rest

end

theorem exposedEach_eq_flatMap (level : Exposure) (xs : List Datum) :
    exposedEach level xs = xs.flatMap (exposed level) := by
  induction xs with
  | nil => rfl
  | cons d rest ih => rw [exposedEach, ih, List.flatMap_cons]

theorem exposedMembers_eq_flatMap (level : Exposure) (ms : List (String × Datum)) :
    exposedMembers level ms = ms.flatMap fun m => exposed level m.2 := by
  induction ms with
  | nil => rfl
  | cons m rest ih => rw [exposedMembers, ih, List.flatMap_cons]

structure Alike (level : Exposure) (d e : Datum) : Prop where
  same : d.same e
  exposed : d.exposed level = e.exposed level

inductive Matched (numbers : Number → Number → Prop) (element member : Datum → Datum → Prop) :
    Datum → Datum → Prop where
  | refl (d : Datum) : Matched numbers element member d d
  | num {n m : Number} : numbers n m → Matched numbers element member (.num n) (.num m)
  | arr {xs ys : List Datum} : List.Forall₂ element xs ys →
      Matched numbers element member (.arr xs) (.arr ys)
  | obj {ms ns : List (String × Datum)} :
      List.Forall₂ (fun m n => m.1 = n.1 ∧ member m.2 n.2) ms ns →
      Matched numbers element member (.obj ms) (.obj ns)

section Same

theorem sameList_iff {xs ys : List Datum} :
    sameList xs ys ↔ List.Forall₂ (fun x y => x.same y = true) xs ys := by
  induction xs generalizing ys with
  | nil => cases ys <;> simp [sameList]
  | cons x xs ih => cases ys <;> simp [sameList, ih]

theorem sameMembers_iff {ms ns : List (String × Datum)} :
    sameMembers ms ns ↔ List.Forall₂ (fun m n => m.1 = n.1 ∧ m.2.same n.2 = true) ms ns := by
  induction ms generalizing ns with
  | nil => cases ns <;> simp [sameMembers]
  | cons m ms ih => cases ns <;> simp [sameMembers, ih, and_assoc]

theorem numSame_refl (n : Number) : n.same n := by
  cases n <;> simp [Number.same]

theorem key_eq_of_same {n m : Number} (h : n.same m) : n.toBinary64.key = m.toBinary64.key := by
  cases n <;> cases m <;> simp_all [Number.same, Number.toBinary64]

theorem same_refl (d : Datum) : d.same d := by
  induction d using induct with
  | null => rfl
  | bool b => exact BEq.rfl
  | num n => exact numSame_refl n
  | str s => exact BEq.rfl
  | arr xs ih => exact sameList_iff.mpr (List.forall₂_same.mpr ih)
  | obj ms ih => exact sameMembers_iff.mpr (List.forall₂_same.mpr fun m mem => ⟨rfl, ih m mem⟩)

theorem matched_of_same {d e : Datum} (h : d.same e) :
    Matched (fun n m => n.same m) (fun x y => x.same y) (fun x y => x.same y) d e := by
  cases d <;> cases e <;> first | cases h | skip
  case null.null => exact .refl _
  case bool.bool => exact beq_iff_eq.mp h ▸ .refl _
  case num.num => exact .num h
  case str.str => exact beq_iff_eq.mp h ▸ .refl _
  case arr.arr => exact .arr (sameList_iff.mp h)
  case obj.obj => exact .obj (sameMembers_iff.mp h)

theorem isZero_eq_of_same {d e : Datum} (h : d.same e) : d.isZero = e.isZero := by
  cases matched_of_same h with
  | refl => rfl
  | num same => simp only [isZero, key_eq_of_same same]
  | arr each => cases each <;> rfl
  | obj each => cases each <;> rfl

theorem compareOrder_eq_of_same {d d' e e' : Datum} (h : d.same d') (h' : e.same e') :
    compareOrder d e = compareOrder d' e' := by
  have left : compareOrder d e = compareOrder d' e := by
    cases matched_of_same h with
    | refl | arr | obj => rfl
    | num same => cases e <;> simp only [compareOrder, key_eq_of_same same]
  have right : compareOrder d' e = compareOrder d' e' := by
    cases matched_of_same h' with
    | refl => rfl
    | arr | obj => cases d' <;> rfl
    | num same => cases d' <;> simp only [compareOrder, key_eq_of_same same]
  exact left.trans right

theorem length_exposed {d e : Datum} (h : d.same e) (level : Exposure) :
    (d.exposed level).length = (e.exposed level).length := by
  induction d using induct generalizing e level with
  | null | bool | str => cases matched_of_same h; rfl
  | num n =>
    cases matched_of_same h with
    | refl => rfl
    | num => simp only [exposed]; split <;> rfl
  | arr xs ih =>
    cases matched_of_same h with
    | refl => rfl
    | arr each =>
      simp only [exposed, exposedEach_eq_flatMap]
      apply length_flatMap_eq
      exact ((List.forall₂_and_left _ _).mpr ⟨ih, each⟩).imp fun x y ⟨ih, same⟩ => ih same _
  | obj ms ih =>
    cases matched_of_same h with
    | refl => rfl
    | obj each =>
      simp only [exposed, exposedMembers_eq_flatMap]
      apply length_flatMap_eq
      exact ((List.forall₂_and_left _ _).mpr ⟨ih, each⟩).imp fun m n ⟨ih, same⟩ => ih same.2 _

end Same

namespace Alike

variable {level : Exposure} {d d' e e' : Datum}

theorem refl (level : Exposure) (d : Datum) : Alike level d d := ⟨same_refl d, rfl⟩

theorem matched (h : Alike level d e) :
    Matched (fun n m => n.same m ∧ level ≠ .shown) (Alike level.element) (Alike level.member) d e := by
  obtain ⟨same, shown⟩ := h
  cases matched_of_same same with
  | refl => exact .refl d
  | @num n m same =>
    by_cases visible : level = .shown
    · simp only [Datum.exposed, if_pos visible, List.cons.injEq, and_true] at shown
      subst shown
      exact .refl _
    · exact .num ⟨same, visible⟩
  | arr each =>
    simp only [Datum.exposed, exposedEach_eq_flatMap] at shown
    have parts := forall₂_of_flatMap_eq each (fun x y same => length_exposed same _) shown
    exact .arr (parts.imp fun x y part => ⟨part.1, part.2⟩)
  | obj each =>
    simp only [Datum.exposed, exposedMembers_eq_flatMap] at shown
    have parts := forall₂_of_flatMap_eq each (fun m n same => length_exposed same.2 _) shown
    exact .obj (parts.imp fun m n part => ⟨part.1.1, part.1.2, part.2⟩)

theorem arr {xs ys : List Datum} (each : List.Forall₂ (Alike level.element) xs ys) :
    Alike level (.arr xs) (.arr ys) := by
  refine ⟨sameList_iff.mpr (each.imp fun x y alike => alike.same), ?_⟩
  rw [Datum.exposed, Datum.exposed, exposedEach_eq_flatMap, exposedEach_eq_flatMap]
  exact flatMap_eq_of_forall₂ (each.imp fun x y alike => alike.exposed)

theorem eq_of_shown (h : Alike .shown d e) : d = e := by
  induction d using induct generalizing e with
  | null | bool | str => cases h.matched; rfl
  | num n =>
    cases h.matched with
    | refl => rfl
    | num same => exact absurd rfl same.2
  | arr xs ih =>
    cases h.matched with
    | refl => rfl
    | arr each =>
      have parts := ((List.forall₂_and_left _ _).mpr ⟨ih, each⟩).imp fun x y part => part.1 part.2
      rw [List.forall₂_eq_eq_eq] at parts
      rw [parts]
  | obj ms ih =>
    cases h.matched with
    | refl => rfl
    | obj each =>
      have parts := ((List.forall₂_and_left _ _).mpr ⟨ih, each⟩).imp fun m n part =>
        Prod.ext part.2.1 (part.1 part.2.2)
      rw [List.forall₂_eq_eq_eq] at parts
      rw [parts]

theorem of_obj {ms : List (String × Datum)} (h : Alike level (.obj ms) e) :
    ∃ ns, e = .obj ns ∧
      List.Forall₂ (fun m n => m.1 = n.1 ∧ Alike level.member m.2 n.2) ms ns := by
  cases h.matched with
  | refl => exact ⟨ms, rfl, List.forall₂_same.mpr fun m _ => ⟨rfl, refl _ m.2⟩⟩
  | obj each => exact ⟨_, rfl, each⟩

theorem eq_of_arr {xs : List Datum} (h : Alike .equated (.arr xs) e) : e = .arr xs := by
  cases h.matched with
  | refl => rfl
  | arr each =>
    have same := each.imp fun _ _ part => part.eq_of_shown
    rw [List.forall₂_eq_eq_eq] at same
    rw [same]

theorem isSimple_eq (h : Alike level d e) : d.isSimple = e.isSimple := by
  cases h.matched <;> rfl

end Alike

section Comparisons

variable {d d' e e' : Datum}

theorem readsAs_eq {x y : Binary64} (same : x.key = y.key) (text : List Char) :
    readsAs text x = readsAs text y := by
  unfold readsAs
  rw [same]

theorem Weight.equals_number {x y : Binary64} (same : x.key = y.key) (w : Weight) :
    (Weight.number x).equals w = (Weight.number y).equals w := by
  cases w with
  | number z => simp only [Weight.equals, same]
  | text t => exact readsAs_eq same t

theorem weight?_num (n : Number) : weight? (.num n) = some (.number n.toBinary64) := rfl

theorem weight?_obj (ms ns : List (String × Datum)) : weight? (.obj ms) = weight? (.obj ns) := by
  have text : display (.obj ms) = display (.obj ns) := rfl
  exact congrArg (fun text => some (Weight.text text)) text

theorem looseEquals_left (h : Alike .equated d d') (e : Datum) :
    looseEquals d e = looseEquals d' e := by
  cases h.matched with
  | refl => rfl
  | num same =>
    unfold looseEquals
    rw [weight?_num, weight?_num]
    cases weight? e with
    | none => rfl
    | some w => exact Weight.equals_number (key_eq_of_same same.1) w
  | arr each => rw [h.eq_of_arr]
  | @obj ms ns each =>
    unfold looseEquals
    rw [weight?_obj ms ns]

theorem looseEquals_eq (h : Alike .equated d d') (h' : Alike .equated e e') :
    looseEquals d e = looseEquals d' e' := by
  rw [looseEquals_left h, looseEquals_comm, looseEquals_left h', looseEquals_comm]

theorem lookup_rel {R : Datum → Datum → Prop} {ms ns : List (String × Datum)}
    (each : List.Forall₂ (fun m n => m.1 = n.1 ∧ R m.2 n.2) ms ns) (key : String) :
    Option.Rel R (ms.lookup key) (ns.lookup key) := by
  induction each with
  | nil => exact .none
  | @cons m n ms ns first _ rest =>
    obtain ⟨k, x⟩ := m
    obtain ⟨l, y⟩ := n
    obtain ⟨rfl, related⟩ := first
    by_cases found : k = key
    · subst found
      rw [lookup_cons_self, lookup_cons_self]
      exact .some related
    · rw [lookup_cons_ne found, lookup_cons_ne found]
      exact rest

theorem membersWithin_eq {ms ms' ns ns' : List (String × Datum)}
    (hm : List.Forall₂ (fun m m' => m.1 = m'.1 ∧ ∀ {y y'}, Alike .equated y y' →
      equals m.2 y = equals m'.2 y') ms ms')
    (hn : List.Forall₂ (fun n n' => n.1 = n'.1 ∧ Alike .equated n.2 n'.2) ns ns') :
    membersWithin ms ns = membersWithin ms' ns' := by
  induction hm with
  | nil => rfl
  | @cons m m' ms ms' first _ rest =>
    obtain ⟨key, x⟩ := m
    obtain ⟨key', x'⟩ := m'
    obtain ⟨rfl, equal⟩ := first
    rw [membersWithin, membersWithin, rest]
    congr 1
    have found := lookup_rel hn key
    generalize ns.lookup key = there, ns'.lookup key = there' at found
    cases found with
    | none => rfl
    | some alike => exact equal alike

theorem equals_eq_of_isSimple (simple : d.isSimple ∨ e.isSimple) (h : Alike .equated d d')
    (h' : Alike .equated e e') : equals d e = equals d' e' := by
  have simple' := simple
  rw [h.isSimple_eq, h'.isSimple_eq] at simple'
  rw [equals_of_isSimple simple, equals_of_isSimple simple', looseEquals_eq h h']

theorem equals_eq (h : Alike .equated d d') (h' : Alike .equated e e') :
    equals d e = equals d' e' := by
  induction d using induct generalizing d' e e' with
  | null | bool | num | str => exact equals_eq_of_isSimple (.inl rfl) h h'
  | arr xs =>
    cases e with
    | null | bool | num | str => exact equals_eq_of_isSimple (.inr rfl) h h'
    | arr ys =>
      -- an array that is equated may be read as text, so nothing within it may change
      rw [h.eq_of_arr, h'.eq_of_arr]
    | obj ns =>
      obtain ⟨ns', rfl, -⟩ := h'.of_obj
      rw [h.eq_of_arr]
      rfl
  | obj ms ih =>
    obtain ⟨ms', rfl, left⟩ := h.of_obj
    cases e with
    | null | bool | num | str => exact equals_eq_of_isSimple (.inr rfl) h h'
    | arr ys =>
      rw [h'.eq_of_arr]
      rfl
    | obj ns =>
      obtain ⟨ns', rfl, right⟩ := h'.of_obj
      rw [equals, equals, left.length_eq, right.length_eq]
      congr 1
      apply membersWithin_eq ?_ right
      refine ((List.forall₂_and_left _ _).mpr ⟨ih, left⟩).imp fun m m' part => ⟨part.2.1, ?_⟩
      exact fun alike => part.1 part.2.2 alike

theorem any_equals_eq {xs ys : List Datum} (each : List.Forall₂ (Alike .equated) xs ys)
    (h : Alike .equated e e') : xs.any (equals · e) = ys.any (equals · e') := by
  induction each with
  | nil => rfl
  | cons first _ rest => rw [List.any_cons, List.any_cons, equals_eq first h, rest]

theorem contains_eq (h : Alike .searched d d') (h' : Alike .equated e e') :
    contains d e = contains d' e' := by
  have container : contains d e = contains d' e := by
    cases h.matched with
    | refl | num => rfl
    | arr each => exact any_equals_eq each (.refl _ e)
    | @obj ms ns each =>
      cases e with
      | str key =>
        have found := lookup_rel each key
        simp only [contains]
        generalize ms.lookup key = there, ns.lookup key = there' at found
        cases found <;> rfl
      | _ => rfl
  have item : contains d' e = contains d' e' := by
    cases d' with
    | arr xs => exact any_equals_eq (List.forall₂_same.mpr fun x _ => .refl _ x) h'
    | null | bool | num => rfl
    | str | obj => cases h'.matched <;> rfl
  exact container.trans item

theorem matching_eq (patterns : Patterns) (h : Alike .shown d d') (h' : Alike .hidden e e') :
    matching patterns d e = matching patterns d' e' := by
  rw [h.eq_of_shown]
  cases h'.matched <;> rfl

end Comparisons

end Datum

namespace Operator

def leftExposure (level : Exposure) : Operator → Exposure
  | .eq | .ne | .ge | .le | .isIn => .equated
  | .contains => .searched
  | .matching => .shown
  | .or => level
  | .gt | .lt | .and | .not | .other _ => .hidden

def rightExposure (level : Exposure) : Operator → Exposure
  | .eq | .ne | .ge | .le | .contains => .equated
  | .isIn => .searched
  | .or => level
  | .matching | .gt | .lt | .and | .not | .other _ => .hidden

end Operator

theorem Datum.compareBy_eq (patterns : Patterns) (op : Operator) {level : Exposure}
    {d d' e e' : Datum} (h : Alike (op.leftExposure level) d d')
    (h' : Alike (op.rightExposure level) e e') :
    compareBy patterns op d e = compareBy patterns op d' e' := by
  have order := compareOrder_eq_of_same h.same h'.same
  cases op with
  | eq => exact equals_eq h h'
  | ne => exact congrArg not (equals_eq h h')
  | gt | lt => simp only [compareBy, order]
  | ge | le => simp only [compareBy, order, equals_eq h h']
  | contains => exact contains_eq h h'
  | matching => exact matching_eq patterns h h'
  | isIn => exact contains_eq h' h
  | and | or | not | other => rfl

end Verdict
