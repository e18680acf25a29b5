import Verdict.Document.Reader
import Verdict.Proofs.Datum.Shape
import Verdict.Proofs.Document.Scalar

set_option autoImplicit false

namespace Verdict.Document

theorem skipBlanks_cons {c : Char} (solid : isBlank c = false) (rest : List Char) :
    skipBlanks (c :: rest) = c :: rest := by
  simp [skipBlanks, solid]

def Starts (text : List Char) : Prop :=
  ∃ c rest, text = c :: rest ∧ isBlank c = false ∧ c ≠ ']' ∧ c ≠ '\x7d'

theorem Starts.append {text : List Char} (starts : Starts text) (more : List Char) :
    Starts (text ++ more) := by
  obtain ⟨c, rest, rfl, free⟩ := starts
  exact ⟨c, rest ++ more, rfl, free⟩

theorem starts_digit {c : Char} (digit : c.isDigit) :
    isBlank c = false ∧ c ≠ ']' ∧ c ≠ '\x7d' := by
  refine ⟨?_, ?_, ?_⟩
  · simp only [isBlank, Bool.or_eq_false_iff, beq_eq_false_iff_ne]
    refine ⟨⟨⟨?_, ?_⟩, ?_⟩, ?_⟩ <;> rintro rfl <;> exact absurd digit (by decide)
  all_goals
    rintro rfl
    exact absurd digit (by decide)

theorem starts_intText (i : Int) : Starts (Number.intText i) := by
  unfold Number.intText
  split
  · exact ⟨'-', _, rfl, by decide⟩
  · obtain ⟨c, tail, digits, digit⟩ := Text.toDigits_eq_cons i.natAbs
    exact ⟨c, tail, digits, starts_digit digit⟩

theorem starts_write {d : Datum} (h : d.Floatless) : Starts (write d) := by
  cases h with
  | null => exact ⟨_, _, rfl, by decide⟩
  | bool b => cases b <;> exact ⟨_, _, rfl, by decide⟩
  | int i fits => exact starts_intText i
  | str s => exact ⟨'"', _, rfl, by decide⟩
  | arr _ => exact ⟨'[', _, rfl, by decide⟩
  | obj _ => exact ⟨'\x7b', _, rfl, by decide⟩

/-- A datum is found at the front of a text, in depth and fuel that its own text measures. -/
def Found (d : Datum) : Prop :=
  ∀ fuel depth rest, (write d).length ≤ fuel → d.nesting ≤ depth → NumberEnds rest →
    readValue fuel depth (write d ++ rest) = .ok (d, rest)

theorem readValue_digit {c : Char} (digit : c.isDigit) (fuel depth : Nat) (rest : List Char) :
    readValue (fuel + 1) depth (c :: rest) =
      (readMagnitude false (c :: rest)).map fun (n, rest) => (.num n, rest) := by
  rw [readValue, skipBlanks_cons (starts_digit digit).1]
  split
  case h_1 same => cases same
  case h_9 same =>
    cases same
    exact if_pos digit
  -- no other first character is a digit
  all_goals
    rename_i same
    cases same
    exact absurd digit (by decide)

theorem readValue_int {i : Int} (fits : -0x8000000000000000 ≤ i ∧ i < 0x10000000000000000)
    (fuel depth : Nat) {rest : List Char} (ends : NumberEnds rest) :
    readValue (fuel + 1) depth (Number.intText i ++ rest) = .ok (.num (.int i fits), rest) := by
  have magnitude := wholeNumber_natAbs fits
  have small : i.natAbs < 0x10000000000000000 := by omega
  unfold Number.intText
  split
  case isTrue negative =>
    rw [decide_eq_true negative] at magnitude
    rw [readValue, List.cons_append, skipBlanks_cons (by decide)]
    simp only [readMagnitude_toDigits true small ends, magnitude, Except.map]
  case isFalse natural =>
    rw [decide_eq_false natural] at magnitude
    have read := readMagnitude_toDigits false small ends
    obtain ⟨c, tail, digits, digit⟩ := Text.toDigits_eq_cons i.natAbs
    rw [digits, List.cons_append] at read ⊢
    rw [readValue_digit digit, read, magnitude]
    rfl

theorem readValue_string (s : String) (fuel depth : Nat) (rest : List Char) :
    readValue (fuel + 1) depth (quote s.toList ++ rest) = .ok (.str s, rest) := by
  simp only [quote, List.cons_append, List.append_assoc, List.nil_append]
  rw [readValue, skipBlanks_cons (by decide)]
  simp only [readString_escape, String.ofList_toList, Except.map]

theorem NumberEnds.cons {c : Char} (closes : c ∈ [',', ']', '\x7d']) (rest : List Char) :
    NumberEnds (c :: rest) := by
  intro d mem
  cases mem
  simp only [List.mem_cons, List.not_mem_nil, or_false] at closes
  rcases closes with rfl | rfl | rfl <;> decide

theorem joinWith_comma (piece next : List Char) (more : List (List Char)) (rest : List Char) :
    Text.joinWith [','] (piece :: next :: more) ++ rest =
      piece ++ ',' :: (Text.joinWith [','] (next :: more) ++ rest) := by
  simp [Text.joinWith]

theorem length_joinWith_comma (piece next : List Char) (more : List (List Char)) :
    (Text.joinWith [','] (piece :: next :: more)).length =
      piece.length + (Text.joinWith [','] (next :: more)).length + 1 := by
  have split := congrArg List.length (joinWith_comma piece next more [])
  simp only [List.append_nil, List.length_append, List.length_cons] at split
  exact split

theorem length_le_member (key : String) (value : List Char) :
    value.length ≤ (member key value).length := by
  simp only [member, List.length_append, List.length_cons]
  omega

theorem readElements_write {xs : List Datum} (nonempty : xs ≠ []) (found : ∀ d ∈ xs, Found d)
    (fuel depth : Nat) (nested : ∀ d ∈ xs, d.nesting ≤ depth)
    (enough : (Text.joinWith [','] (writeEach xs)).length < fuel) (read : List Datum)
    (rest : List Char) :
    readElements fuel depth read (Text.joinWith [','] (writeEach xs) ++ ']' :: rest) =
      .ok (read.reverse ++ xs, rest) := by
  induction xs generalizing fuel read with
  | nil => exact absurd rfl nonempty
  | cons d more ih =>
    obtain ⟨fuel, rfl⟩ : ∃ n, fuel = n + 1 := ⟨fuel - 1, by omega⟩
    have head := found d List.mem_cons_self fuel depth
    have nestedHead := nested d List.mem_cons_self
    cases more with
    | nil =>
      simp only [writeEach, Text.joinWith] at enough ⊢
      rw [readElements, head _ (by omega) nestedHead (.cons (by decide) _)]
      simp only [skipBlanks_cons (c := ']') (by decide), List.reverse_cons]
    | cons e more =>
      simp only [writeEach] at enough ih ⊢
      rw [length_joinWith_comma] at enough
      have tail := ih (by simp) (fun d mem => found d (List.mem_cons_of_mem _ mem)) fuel
        (fun d mem => nested d (List.mem_cons_of_mem _ mem)) (by omega) (d :: read)
      rw [joinWith_comma, readElements, head _ (by omega) nestedHead (.cons (by decide) _)]
      simp only [skipBlanks_cons (c := ',') (by decide), tail]
      simp

theorem readKey_quote (key : String) (rest : List Char) :
    readKey (quote key.toList ++ ':' :: rest) = .ok (key, rest) := by
  simp only [readKey, quote, List.cons_append, skipBlanks_cons (c := '"') (by decide),
    List.append_assoc, List.nil_append, readString_escape, skipBlanks_cons (c := ':') (by decide),
    String.ofList_toList]

theorem readKey_member (key : String) (value rest : List Char) :
    readKey (member key value ++ rest) = .ok (key, value ++ rest) := by
  rw [member, List.append_assoc, List.cons_append, readKey_quote]

theorem readMembers_write {ms : List (String × Datum)} (nonempty : ms ≠ [])
    (found : ∀ m ∈ ms, Found m.2) (fuel depth : Nat) (nested : ∀ m ∈ ms, m.2.nesting ≤ depth)
    (enough : (Text.joinWith [','] (writeMembers ms)).length < fuel)
    (read : List (String × Datum)) (rest : List Char) :
    readMembers fuel depth read (Text.joinWith [','] (writeMembers ms) ++ '\x7d' :: rest) =
      .ok (read.reverse ++ ms, rest) := by
  induction ms generalizing fuel read with
  | nil => exact absurd rfl nonempty
  | cons m more ih =>
    obtain ⟨key, d⟩ := m
    obtain ⟨fuel, rfl⟩ : ∃ n, fuel = n + 1 := ⟨fuel - 1, by omega⟩
    have head : Found d := found (key, d) List.mem_cons_self
    have nestedHead : d.nesting ≤ depth := nested (key, d) List.mem_cons_self
    have length := length_le_member key (write d)
    cases more with
    | nil =>
      simp only [writeMembers, Text.joinWith] at enough ⊢
      rw [readMembers, readKey_member]
      simp only [head fuel depth _ (by omega) nestedHead (.cons (c := '\x7d') (by decide) _),
        skipBlanks_cons (c := '\x7d') (by decide), List.reverse_cons]
    | cons e more =>
      obtain ⟨next, e⟩ := e
      simp only [writeMembers] at enough ih ⊢
      rw [length_joinWith_comma] at enough
      have tail := ih (by simp) (fun m mem => found m (List.mem_cons_of_mem _ mem)) fuel
        (fun m mem => nested m (List.mem_cons_of_mem _ mem)) (by omega) ((key, d) :: read)
      rw [joinWith_comma, readMembers, readKey_member]
      simp only [head fuel depth _ (by omega) nestedHead (.cons (c := ',') (by decide) _),
        skipBlanks_cons (c := ',') (by decide), tail]
      simp

theorem starts_elements {xs : List Datum} (nonempty : xs ≠ []) (h : ∀ d ∈ xs, d.Floatless) :
    Starts (Text.joinWith [','] (writeEach xs)) := by
  cases xs with
  | nil => exact absurd rfl nonempty
  | cons d more =>
    have head := starts_write (h d List.mem_cons_self)
    cases more with
    | nil => exact head
    | cons e more => exact (head.append _).append _

theorem starts_members {ms : List (String × Datum)} (nonempty : ms ≠ []) :
    Starts (Text.joinWith [','] (writeMembers ms)) := by
  cases ms with
  | nil => exact absurd rfl nonempty
  | cons m more =>
    have head : Starts (member m.1 (write m.2)) := ⟨'"', _, rfl, by decide⟩
    cases more with
    | nil => exact head
    | cons e more => exact (head.append _).append _

theorem found_arr {elements : List Datum} (floatless : ∀ d ∈ elements, d.Floatless)
    (found : ∀ d ∈ elements, Found d) : Found (.arr elements) := by
  intro fuel depth rest enough nested _
  simp only [write, List.length_cons, List.length_append] at enough
  simp only [Datum.nesting] at nested
  obtain ⟨fuel, rfl⟩ : ∃ n, fuel = n + 1 := ⟨fuel - 1, by omega⟩
  obtain ⟨depth, rfl⟩ : ∃ n, depth = n + 1 := ⟨depth - 1, by omega⟩
  simp only [write, List.cons_append, List.append_assoc, List.nil_append]
  rw [readValue, skipBlanks_cons (by decide)]
  by_cases empty : elements = []
  · subst empty
    rfl
  · have read := readElements_write empty found fuel depth
      (Datum.nestingList_le.mp (by omega)) (by omega) [] rest
    obtain ⟨c, tail, text, solid, notClose, _⟩ :=
      (starts_elements empty floatless).append (']' :: rest)
    rw [text] at read ⊢
    simp only [skipBlanks_cons solid]
    split
    case h_1 same =>
      cases same
      exact absurd rfl notClose
    case h_2 =>
      rw [read]
      rfl

theorem found_obj {members : List (String × Datum)} (found : ∀ m ∈ members, Found m.2) :
    Found (.obj members) := by
  intro fuel depth rest enough nested _
  simp only [write, List.length_cons, List.length_append] at enough
  simp only [Datum.nesting] at nested
  obtain ⟨fuel, rfl⟩ : ∃ n, fuel = n + 1 := ⟨fuel - 1, by omega⟩
  obtain ⟨depth, rfl⟩ : ∃ n, depth = n + 1 := ⟨depth - 1, by omega⟩
  simp only [write, List.cons_append, List.append_assoc, List.nil_append]
  rw [readValue, skipBlanks_cons (by decide)]
  by_cases empty : members = []
  · subst empty
    rfl
  · have read := readMembers_write empty found fuel depth
      (Datum.nestingMembers_le.mp (by omega)) (by omega) [] rest
    obtain ⟨c, tail, text, solid, _, notClose⟩ := (starts_members empty).append ('\x7d' :: rest)
    rw [text] at read ⊢
    simp only [skipBlanks_cons solid]
    split
    case h_1 same =>
      cases same
      exact absurd rfl notClose
    case h_2 =>
      rw [read]
      rfl

theorem found_of_floatless {d : Datum} (h : d.Floatless) : Found d := by
  have filled {d : Datum} (h : d.Floatless) {fuel : Nat} (enough : (write d).length ≤ fuel) :
      ∃ n, fuel = n + 1 := by
    obtain ⟨c, tail, text, _⟩ := starts_write h
    rw [text, List.length_cons] at enough
    exact ⟨fuel - 1, by omega⟩
  induction h with
  | null =>
    intro fuel depth rest enough _ _
    obtain ⟨fuel, rfl⟩ := filled .null enough
    rfl
  | bool b =>
    intro fuel depth rest enough _ _
    obtain ⟨fuel, rfl⟩ := filled (.bool b) enough
    cases b <;> rfl
  | int i fits =>
    intro fuel depth rest enough _ ends
    obtain ⟨fuel, rfl⟩ := filled (.int i fits) enough
    exact readValue_int fits fuel depth ends
  | str s =>
    intro fuel depth rest enough _ _
    obtain ⟨fuel, rfl⟩ := filled (.str s) enough
    exact readValue_string s fuel depth rest
  | arr floatless ih => exact found_arr floatless ih
  | obj _ ih => exact found_obj ih

end Verdict.Document
