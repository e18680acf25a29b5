import Verdict.Proofs.Document.Grammar

set_option autoImplicit false

namespace Verdict.Document

section Complete

theorem readKey_eq_ok_iff {text value : List Char} {key : String} :
    readKey text = .ok (key, value) ↔ DenotesKey text key value := by
  constructor
  · intro h
    unfold readKey at h
    split at h
    · cases h
    · next body quote =>
      split at h
      · cases h
      · next key more string =>
        split at h
        · cases h
        · next value colon =>
          cases h
          exact ⟨body, more, quote, string, colon⟩
        · cases h
    · cases h
  · rintro ⟨body, more, quote, string, colon⟩
    simp only [readKey, quote, string, colon]

theorem readValue_skipBlanks (fuel depth : Nat) (text : List Char) :
    readValue fuel depth (skipBlanks text) = readValue fuel depth text := by
  cases fuel with
  | zero => rfl
  | succ fuel => simp only [readValue, skipBlanks_skipBlanks]

theorem DenotesScalar.readValue {text rest : List Char} {d : Datum} (h : DenotesScalar text d rest)
    (fuel depth : Nat) : readValue (fuel + 1) depth text = .ok (d, rest) := by
  cases h with
  | null skipped | yes skipped | no skipped =>
    simp [Document.readValue, skipped, readWord, Except.map]
  | str skipped string => simp [Document.readValue, skipped, string, Except.map]
  | negative skipped magnitude => simp [Document.readValue, skipped, magnitude, Except.map]
  | natural skipped digit magnitude =>
    rw [← readValue_skipBlanks, skipped, readValue_digit digit, magnitude]
    rfl

theorem readElements_skipBlanks (fuel depth : Nat) (read : List Datum) (text : List Char) :
    readElements fuel depth read (skipBlanks text) = readElements fuel depth read text := by
  cases fuel with
  | zero => rfl
  | succ fuel => simp only [readElements, readValue_skipBlanks]

theorem readMembers_skipBlanks (fuel depth : Nat) (read : List (String × Datum)) (text : List Char) :
    readMembers fuel depth read (skipBlanks text) = readMembers fuel depth read text := by
  cases fuel with
  | zero => rfl
  | succ fuel => simp only [readMembers, readKey, skipBlanks_skipBlanks]

theorem readValue_elements {text body : List Char} (opened : skipBlanks text = '[' :: body)
    (starts : Starts (skipBlanks body)) (fuel depth : Nat) :
    readValue (fuel + 1) (depth + 1) text =
      (readElements fuel depth [] body).map fun (xs, rest) => (.arr xs, rest) := by
  obtain ⟨c, more, skipped, _, notClose, _⟩ := starts
  rw [← readElements_skipBlanks]
  simp only [readValue, opened]
  split
  case h_1 closed =>
    rw [skipped] at closed
    exact absurd (List.cons.inj closed).1 notClose
  case h_2 => rfl

theorem readValue_members {text body : List Char} (opened : skipBlanks text = '\x7b' :: body)
    (starts : Starts (skipBlanks body)) (fuel depth : Nat) :
    readValue (fuel + 1) (depth + 1) text =
      (readMembers fuel depth [] body).map fun (ms, rest) => (.obj ms, rest) := by
  obtain ⟨c, more, skipped, _, _, notClose⟩ := starts
  rw [← readMembers_skipBlanks]
  simp only [readValue, opened]
  split
  case h_1 closed =>
    rw [skipped] at closed
    exact absurd (List.cons.inj closed).1 notClose
  case h_2 => rfl

def ValueRead (text : List Char) (d : Datum) (rest : List Char) : Prop :=
  ∀ fuel depth, text.length ≤ fuel + rest.length → d.nesting ≤ depth →
    readValue fuel depth text = .ok (d, rest)

def ElementsRead (text : List Char) (xs : List Datum) (rest : List Char) : Prop :=
  ∀ fuel depth read, text.length ≤ fuel + rest.length → Datum.nestingList xs ≤ depth →
    readElements fuel depth read text = .ok (read.reverse ++ xs, rest)

def MembersRead (text : List Char) (ms : List (String × Datum)) (rest : List Char) : Prop :=
  ∀ fuel depth read, text.length ≤ fuel + rest.length → Datum.nestingMembers ms ≤ depth →
    readMembers fuel depth read text = .ok (read.reverse ++ ms, rest)

theorem Denotes.readers_complete :
    (∀ {text d rest}, Denotes text d rest → ValueRead text d rest) ∧
      (∀ {text xs rest}, DenotesElements text xs rest → ElementsRead text xs rest) ∧
      ∀ {text ms rest}, DenotesMembers text ms rest → MembersRead text ms rest := by
  -- along the derivation; a step of the reader takes up at least one character, so that the fuel lasts
  apply Denotes.induct ValueRead ElementsRead MembersRead
  case scalar =>
    intro text d rest scalar fuel depth enough _
    have used := scalar.length_lt
    obtain ⟨fuel, rfl⟩ : ∃ n, fuel = n + 1 := ⟨fuel - 1, by omega⟩
    exact scalar.readValue fuel depth
  case noElements =>
    intro text body rest opened closed fuel depth enough nested
    have used := length_lt_of_skipBlanks opened
    have more := length_lt_of_skipBlanks closed
    simp only [Datum.nesting] at nested
    obtain ⟨fuel, rfl⟩ : ∃ n, fuel = n + 1 := ⟨fuel - 1, by omega⟩
    obtain ⟨depth, rfl⟩ : ∃ n, depth = n + 1 := ⟨depth - 1, by omega⟩
    simp only [readValue, opened, closed]
  case someElements =>
    intro text body rest xs opened derived ih fuel depth enough nested
    have used := length_lt_of_skipBlanks opened
    simp only [Datum.nesting] at nested
    obtain ⟨fuel, rfl⟩ : ∃ n, fuel = n + 1 := ⟨fuel - 1, by have := derived.length_lt; omega⟩
    obtain ⟨depth, rfl⟩ : ∃ n, depth = n + 1 := ⟨depth - 1, by omega⟩
    rw [readValue_elements opened derived.starts, ih fuel depth [] (by omega) (by omega)]
    rfl
  case noMembers =>
    intro text body rest opened closed fuel depth enough nested
    have used := length_lt_of_skipBlanks opened
    have more := length_lt_of_skipBlanks closed
    simp only [Datum.nesting] at nested
    obtain ⟨fuel, rfl⟩ : ∃ n, fuel = n + 1 := ⟨fuel - 1, by omega⟩
    obtain ⟨depth, rfl⟩ : ∃ n, depth = n + 1 := ⟨depth - 1, by omega⟩
    simp only [readValue, opened, closed]
  case someMembers =>
    intro text body rest ms opened derived ih fuel depth enough nested
    have used := length_lt_of_skipBlanks opened
    simp only [Datum.nesting] at nested
    obtain ⟨fuel, rfl⟩ : ∃ n, fuel = n + 1 := ⟨fuel - 1, by have := derived.length_lt; omega⟩
    obtain ⟨depth, rfl⟩ : ∃ n, depth = n + 1 := ⟨depth - 1, by omega⟩
    rw [readValue_members opened derived.starts, ih fuel depth [] (by omega) (by omega)]
    rfl
  case lastElement =>
    intro text more rest d derived closed ih fuel depth read enough nested
    have used := derived.length_lt
    have last := length_lt_of_skipBlanks closed
    simp only [Datum.nestingList] at nested
    obtain ⟨fuel, rfl⟩ : ∃ n, fuel = n + 1 := ⟨fuel - 1, by omega⟩
    simp only [readElements, ih fuel depth (by omega) (by omega), closed, List.reverse_cons]
  case nextElement =>
    intro text more tail rest d xs derived comma others ih tailIh fuel depth read enough nested
    have used := derived.length_lt
    have first := length_lt_of_skipBlanks comma
    have others := others.length_lt
    simp only [Datum.nestingList] at nested
    obtain ⟨fuel, rfl⟩ : ∃ n, fuel = n + 1 := ⟨fuel - 1, by omega⟩
    simp only [readElements, ih fuel depth (by omega) (by omega), comma]
    rw [tailIh fuel depth (d :: read) (by omega) (by omega)]
    simp
  case lastMember =>
    intro text start more rest key d colon derived closed ih fuel depth read enough nested
    have first := colon.length_lt
    have used := derived.length_lt
    have last := length_lt_of_skipBlanks closed
    simp only [Datum.nestingMembers] at nested
    obtain ⟨fuel, rfl⟩ : ∃ n, fuel = n + 1 := ⟨fuel - 1, by omega⟩
    simp only [readMembers, readKey_eq_ok_iff.mpr colon, ih fuel depth (by omega) (by omega), closed,
      List.reverse_cons]
  case nextMember =>
    intro text start more tail rest key d ms colon derived comma others ih tailIh fuel depth read
      enough nested
    have first := colon.length_lt
    have used := derived.length_lt
    have second := length_lt_of_skipBlanks comma
    have others := others.length_lt
    simp only [Datum.nestingMembers] at nested
    obtain ⟨fuel, rfl⟩ : ∃ n, fuel = n + 1 := ⟨fuel - 1, by omega⟩
    simp only [readMembers, readKey_eq_ok_iff.mpr colon, ih fuel depth (by omega) (by omega), comma]
    rw [tailIh fuel depth ((key, d) :: read) (by omega) (by omega)]
    simp

theorem Denotes.unique {text rest other : List Char} {d e : Datum} (h : Denotes text d rest)
    (h' : Denotes text e other) : d = e ∧ rest = other := by
  let depth := max d.nesting e.nesting
  have left := Denotes.readers_complete.1 h text.length depth (by omega) (Nat.le_max_left _ _)
  have right := Denotes.readers_complete.1 h' text.length depth (by omega) (Nat.le_max_right _ _)
  rw [left] at right
  exact Prod.mk.inj (Except.ok.inj right)

theorem IsDocument.unique {text : List Char} {d e : Datum} (h : IsDocument text d)
    (h' : IsDocument text e) : d = e := by
  obtain ⟨_, left, _⟩ := h
  obtain ⟨_, right, _⟩ := h'
  exact (left.unique right).1

end Complete

section Sound

theorem eq_append_of_readWord {word text rest : List Char} (h : readWord word text = .ok rest) :
    text = word ++ rest := by
  induction word generalizing text with
  | nil => exact Except.ok.inj h
  | cons w word ih =>
    cases text with
    | nil => cases h
    | cons c text =>
      simp only [readWord, beq_iff_eq] at h
      split at h
      · next same => rw [same, ih h, List.cons_append]
      · cases h

def ValueSound (fuel : Nat) : Prop :=
  ∀ {depth text d rest}, readValue fuel depth text = .ok (d, rest) →
    Denotes text d rest ∧ d.nesting ≤ depth

def ElementsSound (fuel : Nat) : Prop :=
  ∀ {depth read text xs rest}, readElements fuel depth read text = .ok (xs, rest) →
    ∃ more, xs = read.reverse ++ more ∧ DenotesElements text more rest ∧
      Datum.nestingList more ≤ depth

def MembersSound (fuel : Nat) : Prop :=
  ∀ {depth read text ms rest}, readMembers fuel depth read text = .ok (ms, rest) →
    ∃ more, ms = read.reverse ++ more ∧ DenotesMembers text more rest ∧
      Datum.nestingMembers more ≤ depth

theorem valueSound_succ {fuel : Nat} (elements : ElementsSound fuel) (members : MembersSound fuel) :
    ValueSound (fuel + 1) := by
  intro depth text d rest h
  have ofScalar (scalar : DenotesScalar text d rest) : Denotes text d rest ∧ d.nesting ≤ depth :=
    ⟨.scalar scalar, scalar.nesting_eq_zero ▸ Nat.zero_le depth⟩
  unfold readValue at h
  split at h
  case h_1 => cases h
  case h_2 skipped =>
    obtain ⟨_, word, same⟩ := map_eq_ok h
    cases same
    exact ofScalar (.null (by rw [skipped, eq_append_of_readWord word]; rfl))
  case h_3 skipped =>
    obtain ⟨_, word, same⟩ := map_eq_ok h
    cases same
    exact ofScalar (.yes (by rw [skipped, eq_append_of_readWord word]; rfl))
  case h_4 skipped =>
    obtain ⟨_, word, same⟩ := map_eq_ok h
    cases same
    exact ofScalar (.no (by rw [skipped, eq_append_of_readWord word]; rfl))
  case h_5 skipped =>
    obtain ⟨_, string, same⟩ := map_eq_ok h
    cases same
    exact ofScalar (.str skipped string)
  case h_6 skipped =>
    obtain ⟨_, magnitude, same⟩ := map_eq_ok h
    cases same
    exact ofScalar (.negative skipped magnitude)
  case h_7 body skipped =>
    cases depth with
    | zero => cases h
    | succ depth =>
      simp only at h
      split at h
      case h_1 closed =>
        cases h
        exact ⟨.noElements skipped closed, by simp [Datum.nesting, Datum.nestingList]⟩
      case h_2 =>
        obtain ⟨_, read, same⟩ := map_eq_ok h
        cases same
        rw [readElements_skipBlanks] at read
        obtain ⟨more, rfl, derived, nested⟩ := elements read
        refine ⟨.elements skipped derived, ?_⟩
        simp only [Datum.nesting]
        omega
  case h_8 body skipped =>
    cases depth with
    | zero => cases h
    | succ depth =>
      simp only at h
      split at h
      case h_1 closed =>
        cases h
        exact ⟨.noMembers skipped closed, by simp [Datum.nesting, Datum.nestingMembers]⟩
      case h_2 =>
        obtain ⟨_, read, same⟩ := map_eq_ok h
        cases same
        rw [readMembers_skipBlanks] at read
        obtain ⟨more, rfl, derived, nested⟩ := members read
        refine ⟨.members skipped derived, ?_⟩
        simp only [Datum.nesting]
        omega
  case h_9 skipped =>
    split at h
    · next digit =>
      obtain ⟨_, magnitude, same⟩ := map_eq_ok h
      cases same
      exact ofScalar (.natural skipped digit magnitude)
    · cases h

theorem elementsSound_succ {fuel : Nat} (value : ValueSound fuel) (elements : ElementsSound fuel) :
    ElementsSound (fuel + 1) := by
  intro depth read text xs rest h
  unfold readElements at h
  split at h
  · cases h
  · next d after head =>
    obtain ⟨derived, nested⟩ := value head
    split at h
    · cases h
    · next closed =>
      cases h
      exact ⟨[d], by simp, .last derived closed, by simpa [Datum.nestingList] using nested⟩
    · next comma =>
      obtain ⟨more, rfl, others, nestedOthers⟩ := elements h
      refine ⟨d :: more, by simp, .next derived comma others, ?_⟩
      exact Nat.max_le.mpr ⟨nested, nestedOthers⟩
    · cases h

theorem membersSound_succ {fuel : Nat} (value : ValueSound fuel) (members : MembersSound fuel) :
    MembersSound (fuel + 1) := by
  intro depth read text ms rest h
  unfold readMembers at h
  split at h
  · cases h
  · next key start colon =>
    split at h
    · cases h
    · next d after head =>
      obtain ⟨derived, nested⟩ := value head
      have colon := readKey_eq_ok_iff.mp colon
      split at h
      · cases h
      · next closed =>
        cases h
        exact ⟨[(key, d)], by simp, .last colon derived closed,
          by simpa [Datum.nestingMembers] using nested⟩
      · next comma =>
        obtain ⟨more, rfl, others, nestedOthers⟩ := members h
        refine ⟨(key, d) :: more, by simp, .next colon derived comma others, ?_⟩
        exact Nat.max_le.mpr ⟨nested, nestedOthers⟩
      · cases h

theorem readers_sound (fuel : Nat) :
    ValueSound fuel ∧ ElementsSound fuel ∧ MembersSound fuel := by
  induction fuel with
  | zero => exact ⟨nofun, nofun, nofun⟩
  | succ fuel ih =>
    obtain ⟨value, elements, members⟩ := ih
    exact ⟨valueSound_succ elements members, elementsSound_succ value elements,
      membersSound_succ value members⟩

theorem isDocument_write {d : Datum} (floatless : d.Floatless) : IsDocument (write d) d := by
  have read := found_of_floatless floatless (write d).length d.nesting [] (Nat.le_refl _)
    (Nat.le_refl _) nofun
  rw [List.append_nil] at read
  exact ⟨[], ((readers_sound _).1 read).1, rfl⟩

end Sound

end Verdict.Document
