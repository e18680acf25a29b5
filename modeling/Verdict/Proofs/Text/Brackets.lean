import Verdict.Proofs.Text.Search

set_option autoImplicit false

namespace Verdict.Text

def closer? : Char → Option Char
  | '(' => some ')'
  | '[' => some ']'
  | _ => none

def isCloser (c : Char) : Bool := c == ')' || c == ']'

def isBracket (c : Char) : Bool := c == '(' || c == ')' || c == '[' || c == ']'

def await (awaited : List Char) (c : Char) : Option (List Char) :=
  match closer? c with
  | some closer => some (closer :: awaited)
  | none =>
      if isCloser c then
        match awaited with
        | [] => none
        | closer :: outer => if c == closer then some outer else none
      else some awaited

def awaitAll (awaited text : List Char) : Option (List Char) := text.foldlM await awaited

/-- Every bracket is closed by its own kind, and the brackets do not cross. -/
def Nested (text : List Char) : Prop := awaitAll [] text = some []

instance (text : List Char) : Decidable (Nested text) := inferInstanceAs (Decidable (_ = _))

def Unbracketed (text : List Char) : Prop := ∀ c ∈ text, isBracket c = false

instance (text : List Char) : Decidable (Unbracketed text) := List.decidableBAll _ text

def enclosedFrom? (awaited : List Char) : List Char → Option (List Char × List Char)
  | [] => none
  | c :: rest =>
      match await awaited c with
      | none => none
      | some [] => some ([], rest)
      | some awaited => (enclosedFrom? awaited rest).map fun (inner, after) => (c :: inner, after)

def enclosed? : List Char → Option (List Char × List Char)
  | [] => none
  | c :: rest => (closer? c).bind fun closer => enclosedFrom? [closer] rest

section Await

variable {awaited next text : List Char} {c closer : Char}

theorem isCloser_of_closer? (h : closer? c = some closer) : isCloser closer := by
  unfold closer? at h
  split at h <;> cases h <;> rfl

theorem closer?_of_isCloser (h : isCloser c) : closer? c = none := by
  simp only [isCloser, Bool.or_eq_true, beq_iff_eq] at h
  rcases h with rfl | rfl <;> rfl

theorem await_opener (opens : closer? c = some closer) :
    await awaited c = some (closer :: awaited) := by
  simp [await, opens]

theorem await_closer (closes : isCloser c) : await (c :: awaited) c = some awaited := by
  simp [await, closer?_of_isCloser closes, closes]

theorem isBracket_eq_false_iff : isBracket c = false ↔ closer? c = none ∧ isCloser c = false := by
  unfold closer?
  split
  · simp [isBracket]
  · simp [isBracket]
  · simp_all [isBracket, isCloser]

theorem await_plain (plain : isBracket c = false) : await awaited c = some awaited := by
  simp [await, isBracket_eq_false_iff.mp plain]

theorem await_cases (h : await awaited c = some next) :
    (∃ closer, closer? c = some closer ∧ next = closer :: awaited) ∨
      (isCloser c ∧ awaited = c :: next) ∨ (isBracket c = false ∧ next = awaited) := by
  unfold await at h
  split at h
  · next closer opens =>
    cases h
    exact .inl ⟨closer, opens, rfl⟩
  · next other =>
    split at h
    · next closes =>
      cases awaited with
      | nil => cases h
      | cons first outer =>
        simp only [Option.ite_none_right_eq_some, Option.some.injEq, beq_iff_eq] at h
        obtain ⟨rfl, rfl⟩ := h
        exact .inr (.inl ⟨closes, rfl⟩)
    · next plain =>
      cases h
      exact .inr (.inr ⟨isBracket_eq_false_iff.mpr ⟨other, by simpa using plain⟩, rfl⟩)

theorem await_append (h : await awaited c = some next) (outer : List Char) :
    await (awaited ++ outer) c = some (next ++ outer) := by
  obtain ⟨closer, opens, rfl⟩ | ⟨closes, rfl⟩ | ⟨plain, rfl⟩ := await_cases h
  · exact await_opener opens
  · exact await_closer closes
  · exact await_plain plain

theorem await_concat (h : await (awaited ++ [closer]) c = some next) :
    (awaited = [] ∧ c = closer ∧ next = []) ∨
      ∃ inner, await awaited c = some inner ∧ next = inner ++ [closer] := by
  obtain ⟨first, opens, rfl⟩ | ⟨closes, same⟩ | ⟨plain, rfl⟩ := await_cases h
  · exact .inr ⟨first :: awaited, await_opener opens, rfl⟩
  · cases awaited with
    | nil =>
      cases same
      exact .inl ⟨rfl, rfl, rfl⟩
    | cons first awaited =>
      cases same
      exact .inr ⟨awaited, await_closer closes, rfl⟩
  · exact .inr ⟨awaited, await_plain plain, rfl⟩

theorem awaitAll_cons (awaited : List Char) (c : Char) (text : List Char) :
    awaitAll awaited (c :: text) = (await awaited c).bind (awaitAll · text) :=
  List.foldlM_cons

theorem awaitAll_concat (awaited text : List Char) (c : Char) :
    awaitAll awaited (text ++ [c]) = (awaitAll awaited text).bind (await · c) := by
  simp [awaitAll]

theorem awaitAll_append_right (h : awaitAll awaited text = some next) (outer : List Char) :
    awaitAll (awaited ++ outer) text = some (next ++ outer) := by
  induction text generalizing awaited with
  | nil =>
    cases h
    rfl
  | cons c text ih =>
    rw [awaitAll_cons, Option.bind_eq_some_iff] at h
    obtain ⟨inner, here, rest⟩ := h
    rw [awaitAll_cons, await_append here outer, Option.bind_some, ih rest]

theorem awaitAll_append (awaited text more : List Char) :
    awaitAll awaited (text ++ more) = (awaitAll awaited text).bind (awaitAll · more) :=
  List.foldlM_append

end Await

section Nested

variable {text more : List Char}

theorem Nested.nil : Nested [] := rfl

theorem Nested.append (h : Nested text) (next : Nested more) : Nested (text ++ more) := by
  rw [Nested, awaitAll_append, h, Option.bind_some, next]

theorem Nested.enclose {opener closer : Char} (opens : closer? opener = some closer)
    (h : Nested text) : Nested (opener :: text ++ [closer]) := by
  have within : awaitAll [closer] text = some [closer] := awaitAll_append_right h [closer]
  rw [Nested, List.cons_append, awaitAll_cons, await_opener opens, Option.bind_some, awaitAll_concat,
    within, Option.bind_some, await_closer (isCloser_of_closer? opens)]

theorem Unbracketed.nested (h : Unbracketed text) : Nested text := by
  induction text with
  | nil => exact .nil
  | cons c text ih =>
    obtain ⟨plain, rest⟩ := List.forall_mem_cons.mp h
    rw [Nested, awaitAll_cons, await_plain plain, Option.bind_some, ih rest]

theorem Nested.joinWith {separator : List Char} {pieces : List (List Char)}
    (between : Nested separator) (all : ∀ piece ∈ pieces, Nested piece) :
    Nested (joinWith separator pieces) := by
  fun_induction Text.joinWith separator pieces with
  | case1 => exact .nil
  | case2 piece => exact all piece List.mem_cons_self
  | case3 piece pieces _ ih =>
    obtain ⟨here, rest⟩ := List.forall_mem_cons.mp all
    exact (here.append between).append (ih rest)

theorem Unbracketed.of_joinWith {separator piece : List Char} {pieces : List (List Char)}
    (plain : Unbracketed (joinWith separator pieces)) (mem : piece ∈ pieces) : Unbracketed piece := by
  fun_induction Text.joinWith separator pieces with
  | case1 => cases mem
  | case2 => exact List.mem_singleton.mp mem ▸ plain
  | case3 head pieces _ ih =>
    obtain ⟨front, rest⟩ := List.forall_mem_append.mp plain
    rcases List.mem_cons.mp mem with rfl | mem
    · exact (List.forall_mem_append.mp front).1
    · exact ih rest mem

end Nested

section Enclosed

variable {text inner after : List Char} {opener closer : Char} {awaited : List Char}

theorem enclosedFrom?_of_awaitAll (closes : isCloser closer) (h : awaitAll awaited inner = some [])
    (after : List Char) :
    enclosedFrom? (awaited ++ [closer]) (inner ++ closer :: after) = some (inner, after) := by
  induction inner generalizing awaited with
  | nil =>
    cases h
    simp [enclosedFrom?, await_closer closes]
  | cons c inner ih =>
    rw [awaitAll_cons, Option.bind_eq_some_iff] at h
    obtain ⟨next, here, rest⟩ := h
    rw [List.cons_append, enclosedFrom?, await_append here]
    cases next <;> exact congrArg (Option.map _) (ih rest)

theorem awaitAll_of_enclosedFrom? (h : enclosedFrom? (awaited ++ [closer]) text = some (inner, after)) :
    text = inner ++ closer :: after ∧ awaitAll awaited inner = some [] := by
  induction text generalizing awaited inner with
  | nil => cases h
  | cons c text ih =>
    unfold enclosedFrom? at h
    split at h
    · cases h
    · next last =>
      cases h
      obtain ⟨rfl, rfl, -⟩ | ⟨next, -, same⟩ := await_concat last
      · exact ⟨rfl, rfl⟩
      · simp at same
    · next next other step =>
      obtain ⟨⟨within, rest⟩, found, same⟩ := Option.map_eq_some_iff.mp h
      cases same
      obtain ⟨-, -, rfl⟩ | ⟨outer, here, rfl⟩ := await_concat step
      · exact absurd rfl other
      · obtain ⟨rfl, all⟩ := ih found
        exact ⟨rfl, by rw [awaitAll_cons, here, Option.bind_some, all]⟩

theorem enclosed?_eq_some_iff :
    enclosed? text = some (inner, after) ↔
      ∃ opener closer, closer? opener = some closer ∧
        text = opener :: inner ++ closer :: after ∧ Nested inner := by
  constructor
  · intro h
    cases text with
    | nil => cases h
    | cons opener text =>
      obtain ⟨closer, opens, found⟩ := Option.bind_eq_some_iff.mp h
      rw [← List.nil_append [closer]] at found
      obtain ⟨rfl, nested⟩ := awaitAll_of_enclosedFrom? found
      exact ⟨opener, closer, opens, rfl, nested⟩
  · rintro ⟨opener, closer, opens, same, nested⟩
    rw [same, List.cons_append, enclosed?, opens, Option.bind_some]
    exact enclosedFrom?_of_awaitAll (isCloser_of_closer? opens) nested after

end Enclosed

end Verdict.Text
