import Verdict.Datum.Resolve
import Verdict.Proofs.Datum.Equality
import Verdict.Proofs.Text.Pieces

set_option autoImplicit false

namespace Verdict.Datum

/-- An object has a key, with this value. -/
inductive Has : Datum → String → Datum → Prop where
  | mk {members : List (String × Datum)} {key : String} {d : Datum} : (key, d) ∈ members →
      Has (.obj members) key d

/-- Objects within one another, each with the next of the keys: the value is the next object, and under
the last key the value that is arrived at. -/
inductive Descends : Datum → List String → Datum → Prop where
  | last {o d : Datum} {key : String} : Has o key d → Descends o [key] d
  | step {o next d : Datum} {key : String} {rest : List String} : Has o key next →
      Descends next rest d → Descends o (key :: rest) d

section Distinct

theorem KeysDistinct.member? {d e : Datum} {key : String} (h : d.KeysDistinct)
    (found : d.member? key = some e) : e.KeysDistinct := by
  cases h with
  | obj _ each => exact each _ (mem_of_lookup found)
  | null | bool | num | str | arr => cases found

theorem KeysDistinct.descend? {d e : Datum} {path : List String} (h : d.KeysDistinct)
    (found : Datum.descend? path d = some e) : e.KeysDistinct := by
  induction path generalizing d with
  | nil =>
    cases found
    exact h
  | cons key rest ih =>
    rw [Datum.descend?] at found
    cases next : d.member? key with
    | none => simp [next] at found
    | some below =>
      rw [next] at found
      exact ih (h.member? next) found

theorem KeysDistinct.resolve? {record d : Datum} {path : String} (h : record.KeysDistinct)
    (found : record.resolve? path = some d) : d.KeysDistinct := by
  rcases Option.or_eq_some_iff.mp found with whole | ⟨-, down⟩
  · exact h.member? whole
  · exact h.descend? down

end Distinct

section Segments

theorem segments_eq_iff {path : String} {parts : List String} :
    segments path = parts ↔
      parts ≠ [] ∧ (∀ key ∈ parts, '.' ∉ key.toList) ∧ ".".intercalate parts = path := by
  have read : segments path = parts ↔ Text.pieces '.' path.toList = parts.map String.toList := by
    constructor
    · rintro rfl
      simp [segments, Function.comp_def]
    · intro pieces
      simp [segments, pieces, Function.comp_def]
  rw [read, Text.pieces_eq_iff, ← String.toList_inj, String.toList_intercalate]
  simp

theorem segments_ne_nil (path : String) : segments path ≠ [] :=
  (segments_eq_iff.mp rfl).1

theorem dot_not_mem_segments {path key : String} (mem : key ∈ segments path) : '.' ∉ key.toList :=
  (segments_eq_iff.mp rfl).2.1 key mem

end Segments

section Descent

theorem has_iff {d e : Datum} {key : String} (h : d.KeysDistinct) :
    Has d key e ↔ d.member? key = some e := by
  cases h with
  | obj distinct _ =>
    rw [Datum.member?, lookup_eq_some_iff_mem distinct]
    exact ⟨fun ⟨mem⟩ => mem, .mk⟩
  | null | bool | num | str | arr => exact ⟨nofun, nofun⟩

theorem descends_iff {keys : List String} (nonempty : keys ≠ []) {o d : Datum}
    (h : o.KeysDistinct) : Descends o keys d ↔ descend? keys o = some d := by
  induction keys generalizing o with
  | nil => exact absurd rfl nonempty
  | cons key rest ih =>
    rw [descend?]
    cases rest with
    | nil =>
      have last : Descends o [key] d ↔ Has o key d := by
        refine ⟨fun down => ?_, .last⟩
        cases down with
        | last has => exact has
        | step _ more => cases more
      rw [last, has_iff h]
      cases o.member? key <;> simp [descend?]
    | cons second rest =>
      have step : Descends o (key :: second :: rest) d ↔
          ∃ next, Has o key next ∧ Descends next (second :: rest) d := by
        refine ⟨fun down => ?_, fun ⟨next, has, more⟩ => .step has more⟩
        cases down with
        | step has more => exact ⟨_, has, more⟩
      rw [step]
      cases found : o.member? key with
      | none => simp [has_iff h, found]
      | some next => simp [has_iff h, found, ih (List.cons_ne_nil _ _) (h.member? found)]

theorem forall_not_has_iff {d : Datum} {key : String} (h : d.KeysDistinct) :
    (∀ e, ¬Has d key e) ↔ d.member? key = none := by
  simp only [has_iff h, Option.eq_none_iff_forall_ne_some, ne_eq]

theorem Has.isObject {d e : Datum} {key : String} (h : Has d key e) :
    ∃ members, d = .obj members := by
  cases h with
  | mk _ => exact ⟨_, rfl⟩

theorem Descends.isObject {d e : Datum} {keys : List String} (h : Descends d keys e) :
    ∃ members, d = .obj members := by
  cases h with
  | last has | step has _ => exact has.isObject

theorem resolve?_eq_some_iff {record d : Datum} {path : String} (h : record.KeysDistinct) :
    record.resolve? path = some d ↔
      (∃ members, record = .obj members) ∧
        (Has record path d ∨ (∀ e, ¬Has record path e) ∧ Descends record (segments path) d) := by
  rw [resolve?, Option.or_eq_some_iff, ← has_iff h, ← forall_not_has_iff h,
    ← descends_iff (segments_ne_nil path) h]
  constructor
  · rintro (whole | ⟨none, down⟩)
    · exact ⟨whole.isObject, .inl whole⟩
    · exact ⟨down.isObject, .inr ⟨none, down⟩⟩
  · exact And.right

theorem descend?_append (above below : List String) (d : Datum) :
    descend? (above ++ below) d = (descend? above d).bind (descend? below) := by
  induction above generalizing d with
  | nil => rfl
  | cons key rest ih =>
    rw [List.cons_append, descend?, descend?]
    cases d.member? key with
    | none => rfl
    | some next => exact ih next

theorem descend?_of_not_object {d : Datum} (plain : ∀ members, d ≠ .obj members)
    {keys : List String} (more : keys ≠ []) : descend? keys d = none := by
  cases keys with
  | nil => exact absurd rfl more
  | cons key rest =>
    cases d with
    | obj members => exact absurd rfl (plain members)
    | null | bool | num | str | arr => rfl

theorem resolve?_eq_none_of_stop {record stop : Datum} {path : String} {above below : List String}
    (h : record.KeysDistinct) (split : segments path = above ++ below) (more : below ≠ [])
    (down : Descends record above stop) (plain : ∀ members, stop ≠ .obj members)
    (none : ∀ e, ¬Has record path e) : record.resolve? path = .none := by
  have first : above ≠ [] := by
    rintro rfl
    cases down
  rw [resolve?, (forall_not_has_iff h).mp none, Option.none_or, split, descend?_append,
    (descends_iff first h).mp down, Option.bind_some, descend?_of_not_object plain more]

theorem resolve?_congr {record other : Datum} {path : String}
    (whole : record.member? path = other.member? path)
    (first : ∀ key ∈ (segments path).head?, record.member? key = other.member? key) :
    record.resolve? path = other.resolve? path := by
  rw [resolve?, resolve?, whole]
  cases keys : segments path with
  | nil => exact absurd keys (segments_ne_nil path)
  | cons key rest =>
    rw [keys] at first
    rw [descend?, descend?, first key rfl]

theorem member?_eq_of_has {d e : Datum} (hd : d.KeysDistinct) (he : e.KeysDistinct) {key : String}
    (same : ∀ v, Has d key v ↔ Has e key v) : d.member? key = e.member? key := by
  simp only [has_iff hd, has_iff he] at same
  exact Option.ext same

end Descent

section Bare

mutual

/-- Without the members of objects whose key has a dot, and without the elements of lists. -/
def bare : Datum → Datum
  | .null => .null
  | .bool b => .bool b
  | .num n => .num n
  | .str s => .str s
  | .arr _ => .arr []
  | .obj ms => .obj (bareMembers ms)

def bareMembers : List (String × Datum) → List (String × Datum)
  | [] => []
  | (key, d) :: rest =>
      if '.' ∈ key.toList then bareMembers rest else (key, bare d) :: bareMembers rest

end

def bareWithin : Datum → Datum
  | .obj ms => .obj (ms.map fun m => (m.1, m.2.bare))
  | d => d.bare

theorem member?_bare {key : String} (plain : '.' ∉ key.toList) (d : Datum) :
    d.bare.member? key = (d.member? key).map bare := by
  cases d with
  | null | bool | num | str | arr => rfl
  | obj ms =>
    rw [bare, member?, member?]
    induction ms with
    | nil => rfl
    | cons m rest ih =>
      obtain ⟨k, e⟩ := m
      rw [bareMembers]
      by_cases same : k = key
      · subst same
        rw [if_neg plain, lookup_cons_self, lookup_cons_self, Option.map_some]
      · rw [lookup_cons_ne same, ← ih]
        split
        · rfl
        · rw [lookup_cons_ne same]

theorem descend?_bare {keys : List String} (plain : ∀ key ∈ keys, '.' ∉ key.toList) (d : Datum) :
    descend? keys d.bare = (descend? keys d).map bare := by
  induction keys generalizing d with
  | nil => rfl
  | cons key rest ih =>
    obtain ⟨here, there⟩ := List.forall_mem_cons.mp plain
    rw [descend?, descend?, member?_bare here]
    cases d.member? key with
    | none => rfl
    | some next => exact ih there next

theorem member?_bareWithin (d : Datum) (key : String) :
    d.bareWithin.member? key = (d.member? key).map bare := by
  cases d with
  | null | bool | num | str | arr => rfl
  | obj ms => exact lookup_map bare ms key

theorem resolve?_bareWithin (record : Datum) (path : String) :
    record.bareWithin.resolve? path = (record.resolve? path).map bare := by
  have down : descend? (segments path) record.bareWithin =
      (descend? (segments path) record).map bare := by
    cases keys : segments path with
    | nil => exact absurd keys (segments_ne_nil path)
    | cons key rest =>
      rw [descend?, descend?, member?_bareWithin]
      cases record.member? key with
      | none => rfl
      | some next =>
        refine descend?_bare (fun k mem => ?_) next
        have segment : k ∈ segments path := keys ▸ List.mem_cons_of_mem _ mem
        exact dot_not_mem_segments segment
  rw [resolve?, resolve?, member?_bareWithin, down]
  cases record.member? path <;> rfl

end Bare

/-- The whole path is looked for first, then the way down along its segments, and nothing else. -/
theorem resolve?_flat_then_down (record : Value) (path : String) :
    (∀ parts, segments path = parts ↔
      parts ≠ [] ∧ (∀ key ∈ parts, '.' ∉ key.toList) ∧ ".".intercalate parts = path) ∧
    (∀ d, record.datum.resolve? path = some d ↔
      (∃ members, record.datum = .obj members) ∧
        (Has record path d ∨ (∀ e, ¬Has record path e) ∧ Descends record (segments path) d)) ∧
    -- below the record, no key with a dot and no element of a list counts
    record.datum.bareWithin.resolve? path = (record.datum.resolve? path).map bare ∧
    -- what is no object may be found at the end, but ends the way before
    (Has record path .null ∨ (∀ e, ¬Has record path e) ∧ Descends record (segments path) .null →
      record.datum.resolve? path = some .null) ∧
    (∀ above below stop, segments path = above ++ below → below ≠ [] →
      Descends record above stop → (∀ members, stop ≠ .obj members) → (∀ e, ¬Has record path e) →
      record.datum.resolve? path = none) ∧
    -- of the record's own keys only two count
    (∀ other : Value, (∀ d, Has record path d ↔ Has other path d) →
      (∀ key ∈ (segments path).head?, ∀ d, Has record key d ↔ Has other key d) →
      record.datum.resolve? path = other.datum.resolve? path) := by
  obtain ⟨record, h⟩ := record
  refine ⟨fun parts => segments_eq_iff, fun d => resolve?_eq_some_iff h,
    resolve?_bareWithin record path, ?_, ?_, ?_⟩
  · intro found
    refine (resolve?_eq_some_iff h).mpr ⟨?_, found⟩
    rcases found with whole | ⟨-, down⟩
    · exact whole.isObject
    · exact down.isObject
  · intro above below stop split more down plain none
    exact resolve?_eq_none_of_stop h split more down plain none
  · intro other whole first
    exact resolve?_congr (member?_eq_of_has h other.keysDistinct whole) fun key mem =>
      member?_eq_of_has h other.keysDistinct (first key mem)

-- A path that ends in a dot finds the null under the empty key; one that goes on from there finds
-- nothing, nor does a key with a dot below the record. The whole path comes before the way down.
theorem resolve?_flat_then_down_of_null :
    let record : Datum := .obj [("a", .obj [("", .null), ("b", .arr []), ("b.c", .ofInt 1)]),
      ("a.b", .ofInt 2)]
    record.KeysDistinct ∧ record.resolve? "a." = some .null ∧ record.resolve? "a..b" = none ∧
      record.resolve? "a.b" = some (.ofInt 2) ∧ record.resolve? "a.b.c" = none := by
  intro record
  have distinct : record.KeysDistinct := keysDistinct_of_canonical rfl
  let value : Value := ⟨record, distinct⟩
  have none (path : String) (fresh : record.member? path = .none) : ∀ e, ¬Has record path e :=
    (forall_not_has_iff distinct).mpr fresh
  have inner : Has record "a" (.obj [("", .null), ("b", .arr []), ("b.c", .ofInt 1)]) :=
    .mk List.mem_cons_self
  have null : Descends record ["a", ""] .null := .step inner (.last (.mk List.mem_cons_self))
  have list : Descends record ["a", "b"] (.arr []) := .step inner (.last (.mk (by simp)))
  obtain ⟨-, -, -, atEnd, -, -⟩ := resolve?_flat_then_down value "a."
  obtain ⟨-, -, -, -, pastNull, -⟩ := resolve?_flat_then_down value "a..b"
  obtain ⟨-, whole, -⟩ := resolve?_flat_then_down value "a.b"
  obtain ⟨-, -, -, -, pastList, -⟩ := resolve?_flat_then_down value "a.b.c"
  refine ⟨distinct, ?_, ?_, ?_, ?_⟩
  · refine atEnd (.inr ⟨none "a." (by decide +kernel), ?_⟩)
    rwa [show segments "a." = ["a", ""] by decide +kernel]
  · exact pastNull ["a", ""] ["b"] .null (by decide +kernel) nofun null nofun
      (none "a..b" (by decide +kernel))
  · exact (whole _).mpr ⟨⟨_, rfl⟩, .inl (.mk (by simp))⟩
  · exact pastList ["a", "b"] ["c"] (.arr []) (by decide +kernel) nofun list nofun
      (none "a.b.c" (by decide +kernel))

end Verdict.Datum
