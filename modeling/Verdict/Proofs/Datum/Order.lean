import Verdict.Proofs.Datum.Shape

set_option autoImplicit false

namespace Verdict.Datum

abbrev keys (ms : List (String × Datum)) : List String := ms.map Prod.fst

inductive KeysDistinct : Datum → Prop where
  | null : KeysDistinct .null
  | bool (b : Bool) : KeysDistinct (.bool b)
  | num (n : Number) : KeysDistinct (.num n)
  | str (s : String) : KeysDistinct (.str s)
  | arr {elements : List Datum} : (∀ d ∈ elements, KeysDistinct d) → KeysDistinct (.arr elements)
  | obj {members : List (String × Datum)} : (keys members).Nodup →
      (∀ m ∈ members, KeysDistinct m.2) → KeysDistinct (.obj members)

/-- A datum in which no object repeats a key. -/
structure Value where
  datum : Datum
  keysDistinct : datum.KeysDistinct

instance : Coe Value Datum := ⟨Value.datum⟩

/-- The members of some objects within a datum have been put into another order. -/
inductive Reordered : Datum → Datum → Prop where
  | refl (d : Datum) : Reordered d d
  | trans {d e f : Datum} : Reordered d e → Reordered e f → Reordered d f
  | members {ms ns : List (String × Datum)} : ms.Perm ns → Reordered (.obj ms) (.obj ns)
  | element (before : List Datum) {d e : Datum} (after : List Datum) : Reordered d e →
      Reordered (.arr (before ++ d :: after)) (.arr (before ++ e :: after))
  | member (before : List (String × Datum)) (key : String) {d e : Datum}
      (after : List (String × Datum)) : Reordered d e →
      Reordered (.obj (before ++ (key, d) :: after)) (.obj (before ++ (key, e) :: after))

section Lookup

theorem lookup_cons_self (key : String) (d : Datum) (rest : List (String × Datum)) :
    ((key, d) :: rest).lookup key = some d := by
  simp

theorem lookup_cons_ne {key k : String} (other : k ≠ key) (d : Datum)
    (rest : List (String × Datum)) : ((k, d) :: rest).lookup key = rest.lookup key := by
  simp [List.lookup_cons, beq_false_of_ne other.symm]

theorem lookup_eq_none {ms : List (String × Datum)} {key : String} (fresh : key ∉ keys ms) :
    ms.lookup key = none := by
  rw [List.lookup_eq_none_iff]
  intro m mem
  simp only [keys, List.mem_map, not_exists, not_and] at fresh
  exact bne_iff_ne.mpr fun same => fresh m mem same.symm

theorem mem_of_lookup {ms : List (String × Datum)} {key : String} {d : Datum}
    (found : ms.lookup key = some d) : (key, d) ∈ ms := by
  obtain ⟨before, after, rfl, _⟩ := List.lookup_eq_some_iff.mp found
  simp

theorem lookup_map (f : Datum → Datum) (ms : List (String × Datum)) (key : String) :
    (ms.map fun m => (m.1, f m.2)).lookup key = (ms.lookup key).map f := by
  induction ms with
  | nil => rfl
  | cons m rest ih =>
    obtain ⟨k, d⟩ := m
    rw [List.map_cons]
    by_cases same : k = key
    · subst same
      rw [lookup_cons_self, lookup_cons_self, Option.map_some]
    · rw [lookup_cons_ne same, lookup_cons_ne same, ih]

theorem lookup_eq_of_perm {ms ns : List (String × Datum)} (perm : ms.Perm ns)
    (distinct : (keys ms).Nodup) (key : String) : ms.lookup key = ns.lookup key := by
  induction perm with
  | nil => rfl
  | cons m perm ih =>
    obtain ⟨k, d⟩ := m
    simp only [List.lookup_cons, ih (List.nodup_cons.mp distinct).2]
  | swap m n rest =>
    obtain ⟨k, d⟩ := m
    obtain ⟨l, e⟩ := n
    have apart : l ≠ k := by
      intro same
      simp [keys, same] at distinct
    by_cases first : k = key
    · subst first
      rw [lookup_cons_ne apart, lookup_cons_self, lookup_cons_self]
    · by_cases second : l = key
      · subst second
        rw [lookup_cons_self, lookup_cons_ne first, lookup_cons_self]
      · simp only [lookup_cons_ne first, lookup_cons_ne second]
  | trans first second ih ih' =>
    have next := ((first.map Prod.fst).nodup_iff).mp distinct
    rw [ih distinct, ih' next]

end Lookup

section Insertion

theorem insertUnder_comm {k l : String} (apart : k ≠ l) (v w : Datum) (ms : List (String × Datum)) :
    insertUnder k v (insertUnder l w ms) = insertUnder l w (insertUnder k v ms) := by
  induction ms with
  | nil => grind [insertUnder]
  | cons m rest ih => grind [insertUnder]

theorem insertUnder_perm {key : String} {ms : List (String × Datum)} (fresh : key ∉ keys ms)
    (v : Datum) : (insertUnder key v ms).Perm ((key, v) :: ms) := by
  induction ms with
  | nil => rfl
  | cons m rest ih =>
    obtain ⟨k, d⟩ := m
    simp only [keys, List.map_cons, List.mem_cons, not_or] at fresh
    simp only [insertUnder]
    split
    · rfl
    · simp only [fresh.1, if_false]
      exact ((ih fresh.2).cons (k, d)).trans (.swap _ _ _)

theorem mem_insertUnder {key : String} {v : Datum} {ms : List (String × Datum)} {m : String × Datum}
    (mem : m ∈ insertUnder key v ms) : m = (key, v) ∨ m ∈ ms := by
  induction ms with
  | nil => simpa [insertUnder] using mem
  | cons n rest ih => grind [insertUnder]

theorem insertUnder_ascending {key : String} (v : Datum) {ms : List (String × Datum)}
    (ascending : (keys ms).Pairwise (· < ·)) :
    (keys (insertUnder key v ms)).Pairwise (· < ·) := by
  induction ms with
  | nil => simp [insertUnder]
  | cons m rest ih =>
    obtain ⟨k, d⟩ := m
    obtain ⟨above, others⟩ := List.pairwise_cons.mp ascending
    simp only [insertUnder]
    split
    · next below =>
      refine List.pairwise_cons.mpr ⟨fun l mem => ?_, ascending⟩
      rcases List.mem_cons.mp mem with rfl | mem
      · exact below
      · exact String.lt_trans below (above l mem)
    · split
      · exact ascending
      · refine List.pairwise_cons.mpr ⟨fun l mem => ?_, ih others⟩
        obtain ⟨m, inserted, rfl⟩ := List.mem_map.mp mem
        rcases mem_insertUnder inserted with rfl | old
        · grind
        · exact above m.1 (List.mem_map.mpr ⟨m, old, rfl⟩)

def sorted (ms : List (String × Datum)) : List (String × Datum) :=
  ms.foldr (fun m rest => insertUnder m.1 m.2 rest) []

theorem sorted_perm {ms : List (String × Datum)} (distinct : (keys ms).Nodup) :
    (sorted ms).Perm ms := by
  induction ms with
  | nil => rfl
  | cons m rest ih =>
    obtain ⟨fresh, others⟩ := List.nodup_cons.mp distinct
    have sameKeys : (keys (sorted rest)).Perm (keys rest) := (ih others).map Prod.fst
    have still : m.1 ∉ keys (sorted rest) := fun mem => fresh (sameKeys.subset mem)
    exact (insertUnder_perm still m.2).trans ((ih others).cons m)

theorem sorted_eq_of_perm {ms ns : List (String × Datum)} (perm : ms.Perm ns)
    (distinct : (keys ms).Nodup) : sorted ms = sorted ns := by
  induction perm with
  | nil => rfl
  | cons m perm ih =>
    have rest := ih (List.nodup_cons.mp distinct).2
    simp only [sorted, List.foldr_cons] at rest ⊢
    rw [rest]
  | swap m n rest =>
    have apart : n.1 ≠ m.1 := by
      intro same
      simp [keys, same] at distinct
    exact insertUnder_comm apart n.2 m.2 (sorted rest)
  | trans first second ih ih' =>
    have next := ((first.map Prod.fst).nodup_iff).mp distinct
    rw [ih distinct, ih' next]

end Insertion

section Canonical

theorem canonicalList_eq_map (xs : List Datum) : canonicalList xs = xs.map canonical := by
  induction xs with
  | nil => rfl
  | cons d rest ih => rw [canonicalList, ih, List.map_cons]

theorem canonicalMembers_eq_sorted (ms : List (String × Datum)) :
    canonicalMembers ms = sorted (ms.map fun m => (m.1, m.2.canonical)) := by
  induction ms with
  | nil => rfl
  | cons m rest ih =>
    obtain ⟨key, d⟩ := m
    rw [canonicalMembers, ih]
    rfl

theorem keys_map (f : Datum → Datum) (ms : List (String × Datum)) :
    keys (ms.map fun m => (m.1, f m.2)) = keys ms := by
  simp [keys]

theorem canonicalMembers_perm {ms : List (String × Datum)} (distinct : (keys ms).Nodup) :
    (canonicalMembers ms).Perm (ms.map fun m => (m.1, m.2.canonical)) := by
  rw [canonicalMembers_eq_sorted]
  exact sorted_perm (by rwa [keys_map])

theorem canonicalMembers_ascending (ms : List (String × Datum)) :
    (keys (canonicalMembers ms)).Pairwise (· < ·) := by
  induction ms with
  | nil => exact .nil
  | cons m rest ih => exact insertUnder_ascending m.2.canonical ih

theorem keys_canonicalMembers_nodup (ms : List (String × Datum)) :
    (keys (canonicalMembers ms)).Nodup := by
  refine (canonicalMembers_ascending ms).imp ?_
  rintro k l less rfl
  exact String.lt_irrefl k less

theorem keysDistinct_canonical (d : Datum) : d.canonical.KeysDistinct := by
  refine Datum.rec (motive_1 := fun d => d.canonical.KeysDistinct)
    (motive_2 := fun xs => ∀ x ∈ canonicalList xs, x.KeysDistinct)
    (motive_3 := fun ms => ∀ m ∈ canonicalMembers ms, m.2.KeysDistinct)
    (motive_4 := fun m => m.2.canonical.KeysDistinct) .null .bool .num .str ?_ ?_ ?_ ?_ ?_ ?_ ?_ d
  · intro elements each
    exact .arr each
  · intro members each
    exact .obj (keys_canonicalMembers_nodup members) each
  · exact nofun
  · intro head tail here there
    rw [canonicalList]
    exact List.forall_mem_cons.mpr ⟨here, there⟩
  · exact nofun
  · rintro ⟨key, d⟩ tail here there m mem
    rcases mem_insertUnder mem with rfl | mem
    · exact here
    · exact there m mem
  · intro key d here
    exact here

theorem keysDistinct_of_canonical {d : Datum} (h : d.canonical = d) : d.KeysDistinct :=
  h ▸ keysDistinct_canonical d

theorem lookup_canonicalMembers {ms : List (String × Datum)} (distinct : (keys ms).Nodup)
    (key : String) : (canonicalMembers ms).lookup key = (ms.lookup key).map canonical := by
  have same := lookup_eq_of_perm (canonicalMembers_perm distinct)
    (keys_canonicalMembers_nodup ms) key
  rw [same, lookup_map]

theorem KeysDistinct.canonical_canonical {d : Datum} (h : d.KeysDistinct) :
    d.canonical.canonical = d.canonical := by
  induction h with
  | null | bool b | num n | str s => rfl
  | arr _ ih =>
    simp only [canonical, canonicalList_eq_map, List.map_map, arr.injEq]
    exact List.map_congr_left ih
  | @obj ms distinct _ ih =>
    have perm := (canonicalMembers_perm distinct).map fun m => (m.1, m.2.canonical)
    have values : (ms.map fun m => (m.1, m.2.canonical)).map (fun m => (m.1, m.2.canonical)) =
        ms.map fun m => (m.1, m.2.canonical) := by
      rw [List.map_map]
      exact List.map_congr_left fun m mem => by simp [ih m mem]
    simp only [canonical, obj.injEq]
    rw [canonicalMembers_eq_sorted, sorted_eq_of_perm perm, values, canonicalMembers_eq_sorted]
    rw [keys_map]
    exact keys_canonicalMembers_nodup ms

end Canonical

section Reordering

theorem nestingList_eq_foldr (xs : List Datum) :
    nestingList xs = (xs.map nesting).foldr max 0 := by
  induction xs with
  | nil => rfl
  | cons d rest ih => rw [nestingList, ih, List.map_cons, List.foldr_cons]

theorem nestingMembers_eq_nestingList (ms : List (String × Datum)) :
    nestingMembers ms = nestingList (ms.map Prod.snd) := by
  induction ms with
  | nil => rfl
  | cons m rest ih => rw [nestingMembers, ih, List.map_cons, nestingList]

theorem nestingMembers_le_of_perm {ms ns : List (String × Datum)} (perm : ms.Perm ns) :
    nestingMembers ms ≤ nestingMembers ns := by
  rw [nestingMembers_le]
  intro m mem
  exact nestingMembers_le.mp (Nat.le_refl _) m (perm.subset mem)

theorem Reordered.nesting_eq {d e : Datum} (h : Reordered d e) : d.nesting = e.nesting := by
  induction h with
  | refl d => rfl
  | trans _ _ ih ih' => exact ih.trans ih'
  | members perm =>
    have same := Nat.le_antisymm (nestingMembers_le_of_perm perm)
      (nestingMembers_le_of_perm perm.symm)
    rw [nesting, nesting, same]
  | element before after _ ih => simp [nesting, nestingList_eq_foldr, ih]
  | member before key after _ ih =>
    simp [nesting, nestingMembers_eq_nestingList, nestingList_eq_foldr, ih]

theorem Reordered.canonical_eq {d e : Datum} (h : Reordered d e) (distinct : d.KeysDistinct) :
    e.KeysDistinct ∧ e.canonical = d.canonical := by
  induction h with
  | refl d => exact ⟨distinct, rfl⟩
  | trans _ _ ih ih' =>
    obtain ⟨next, same⟩ := ih distinct
    obtain ⟨last, same'⟩ := ih' next
    exact ⟨last, same'.trans same⟩
  | @members ms ns perm =>
    cases distinct with
    | obj nodup each =>
      constructor
      · exact .obj (((perm.map Prod.fst).nodup_iff).mp nodup) fun m mem =>
          each m (perm.symm.subset mem)
      · simp only [canonical, canonicalMembers_eq_sorted, obj.injEq]
        exact (sorted_eq_of_perm (perm.map _) (by rwa [keys_map])).symm
  | @element before d e after _ ih =>
    cases distinct with
    | arr each =>
      obtain ⟨next, same⟩ := ih (each d (by simp))
      constructor
      · refine .arr fun x mem => ?_
        rcases List.mem_append.mp mem with mem | mem
        · exact each x (List.mem_append_left _ mem)
        · rcases List.mem_cons.mp mem with rfl | mem
          · exact next
          · exact each x (by simp [mem])
      · simp [canonical, canonicalList_eq_map, same]
  | @member before key d e after _ ih =>
    cases distinct with
    | obj nodup each =>
      obtain ⟨next, same⟩ := ih (each (key, d) (by simp))
      constructor
      · refine .obj (by simpa [keys] using nodup) fun m mem => ?_
        rcases List.mem_append.mp mem with mem | mem
        · exact each m (List.mem_append_left _ mem)
        · rcases List.mem_cons.mp mem with rfl | mem
          · exact next
          · exact each m (by simp [mem])
      · simp [canonical, canonicalMembers_eq_sorted, same]

end Reordering

end Verdict.Datum
