import Verdict.Proofs.Document.Magnitude
import Verdict.Proofs.Document.RoundTrip

set_option autoImplicit false

namespace Verdict.Document

/-- A datum that is no container stands at the front of a text, after blanks if there are any; the
rest follows it. -/
inductive DenotesScalar : List Char → Datum → List Char → Prop where
  | null {text rest : List Char} :
      skipBlanks text = 'n' :: 'u' :: 'l' :: 'l' :: rest → DenotesScalar text .null rest
  | yes {text rest : List Char} :
      skipBlanks text = 't' :: 'r' :: 'u' :: 'e' :: rest → DenotesScalar text (.bool true) rest
  | no {text rest : List Char} :
      skipBlanks text = 'f' :: 'a' :: 'l' :: 's' :: 'e' :: rest →
      DenotesScalar text (.bool false) rest
  | str {text body rest : List Char} {s : String} : skipBlanks text = '"' :: body →
      readString body = .ok (s, rest) → DenotesScalar text (.str s) rest
  | negative {text body rest : List Char} {n : Number} : skipBlanks text = '-' :: body →
      readMagnitude true body = .ok (n, rest) → DenotesScalar text (.num n) rest
  | natural {text body rest : List Char} {c : Char} {n : Number} : skipBlanks text = c :: body →
      c.isDigit → readMagnitude false (c :: body) = .ok (n, rest) → DenotesScalar text (.num n) rest

def DenotesKey (text : List Char) (key : String) (value : List Char) : Prop :=
  ∃ body more, skipBlanks text = '"' :: body ∧ readString body = .ok (key, more) ∧
    skipBlanks more = ':' :: value

mutual

inductive Denotes : List Char → Datum → List Char → Prop where
  | scalar {text rest : List Char} {d : Datum} : DenotesScalar text d rest → Denotes text d rest
  | noElements {text body rest : List Char} : skipBlanks text = '[' :: body →
      skipBlanks body = ']' :: rest → Denotes text (.arr []) rest
  | elements {text body rest : List Char} {xs : List Datum} : skipBlanks text = '[' :: body →
      DenotesElements body xs rest → Denotes text (.arr xs) rest
  | noMembers {text body rest : List Char} : skipBlanks text = '\x7b' :: body →
      skipBlanks body = '\x7d' :: rest → Denotes text (.obj []) rest
  | members {text body rest : List Char} {ms : List (String × Datum)} :
      skipBlanks text = '\x7b' :: body → DenotesMembers body ms rest → Denotes text (.obj ms) rest

inductive DenotesElements : List Char → List Datum → List Char → Prop where
  | last {text more rest : List Char} {d : Datum} : Denotes text d more →
      skipBlanks more = ']' :: rest → DenotesElements text [d] rest
  | next {text more tail rest : List Char} {d : Datum} {xs : List Datum} : Denotes text d more →
      skipBlanks more = ',' :: tail → DenotesElements tail xs rest →
      DenotesElements text (d :: xs) rest

inductive DenotesMembers : List Char → List (String × Datum) → List Char → Prop where
  | last {text value more rest : List Char} {key : String} {d : Datum} :
      DenotesKey text key value → Denotes value d more → skipBlanks more = '\x7d' :: rest →
      DenotesMembers text [(key, d)] rest
  | next {text value more tail rest : List Char} {key : String} {d : Datum}
      {ms : List (String × Datum)} : DenotesKey text key value → Denotes value d more →
      skipBlanks more = ',' :: tail → DenotesMembers tail ms rest →
      DenotesMembers text ((key, d) :: ms) rest

end

def IsDocument (text : List Char) (d : Datum) : Prop :=
  ∃ rest, Denotes text d rest ∧ skipBlanks rest = []

theorem Denotes.induct (value : List Char → Datum → List Char → Prop)
    (elements : List Char → List Datum → List Char → Prop)
    (members : List Char → List (String × Datum) → List Char → Prop)
    (scalar : ∀ {text d rest}, DenotesScalar text d rest → value text d rest)
    (noElements : ∀ {text body rest}, skipBlanks text = '[' :: body →
      skipBlanks body = ']' :: rest → value text (.arr []) rest)
    (someElements : ∀ {text body rest xs}, skipBlanks text = '[' :: body →
      DenotesElements body xs rest → elements body xs rest → value text (.arr xs) rest)
    (noMembers : ∀ {text body rest}, skipBlanks text = '\x7b' :: body →
      skipBlanks body = '\x7d' :: rest → value text (.obj []) rest)
    (someMembers : ∀ {text body rest ms}, skipBlanks text = '\x7b' :: body →
      DenotesMembers body ms rest → members body ms rest → value text (.obj ms) rest)
    (lastElement : ∀ {text more rest d}, Denotes text d more → skipBlanks more = ']' :: rest →
      value text d more → elements text [d] rest)
    (nextElement : ∀ {text more tail rest d xs}, Denotes text d more →
      skipBlanks more = ',' :: tail → DenotesElements tail xs rest → value text d more →
      elements tail xs rest → elements text (d :: xs) rest)
    (lastMember : ∀ {text start more rest key d}, DenotesKey text key start →
      Denotes start d more → skipBlanks more = '\x7d' :: rest → value start d more →
      members text [(key, d)] rest)
    (nextMember : ∀ {text start more tail rest key d ms}, DenotesKey text key start →
      Denotes start d more → skipBlanks more = ',' :: tail → DenotesMembers tail ms rest →
      value start d more → members tail ms rest → members text ((key, d) :: ms) rest) :
    (∀ {text d rest}, Denotes text d rest → value text d rest) ∧
      (∀ {text xs rest}, DenotesElements text xs rest → elements text xs rest) ∧
      ∀ {text ms rest}, DenotesMembers text ms rest → members text ms rest :=
  ⟨Denotes.rec (motive_1 := fun text d rest _ => value text d rest)
      (motive_2 := fun text xs rest _ => elements text xs rest)
      (motive_3 := fun text ms rest _ => members text ms rest)
      scalar noElements someElements noMembers someMembers lastElement nextElement lastMember
      nextMember,
    DenotesElements.rec (motive_1 := fun text d rest _ => value text d rest)
      (motive_2 := fun text xs rest _ => elements text xs rest)
      (motive_3 := fun text ms rest _ => members text ms rest)
      scalar noElements someElements noMembers someMembers lastElement nextElement lastMember
      nextMember,
    DenotesMembers.rec (motive_1 := fun text d rest _ => value text d rest)
      (motive_2 := fun text xs rest _ => elements text xs rest)
      (motive_3 := fun text ms rest _ => members text ms rest)
      scalar noElements someElements noMembers someMembers lastElement nextElement lastMember
      nextMember⟩

section Blanks

theorem solid_of_skipBlanks {c : Char} {text rest : List Char} (h : skipBlanks text = c :: rest) :
    isBlank c = false := by
  have stop := head?_dropWhile (p := isBlank) text
  rw [← skipBlanks, h] at stop
  exact stop c rfl

@[simp] theorem skipBlanks_skipBlanks (text : List Char) :
    skipBlanks (skipBlanks text) = skipBlanks text := by
  cases skipped : skipBlanks text with
  | nil => rfl
  | cons c rest => simp [skipBlanks, solid_of_skipBlanks skipped]

theorem length_lt_of_skipBlanks {c : Char} {text rest : List Char}
    (h : skipBlanks text = c :: rest) : rest.length < text.length := by
  have le := (List.dropWhile_sublist isBlank (l := text)).length_le
  rw [← skipBlanks, h, List.length_cons] at le
  exact le

end Blanks

section Lengths

theorem length_le_of_readString {text rest : List Char} {s : String}
    (h : readString text = .ok (s, rest)) : rest.length ≤ text.length := by
  obtain ⟨body, cs, rfl, -, -⟩ := readString_eq_ok h
  simp only [List.length_append, List.length_cons]
  omega

theorem length_lt_of_readMagnitude {negative : Bool} {text rest : List Char} {n : Number}
    (h : readMagnitude negative text = .ok (n, rest)) : rest.length < text.length := by
  obtain ⟨body, rfl, spelled⟩ := readMagnitude_eq_ok h
  obtain ⟨d, more, rfl, -⟩ := spelled.first
  simp only [List.length_append, List.length_cons]
  omega

theorem DenotesScalar.length_lt {text rest : List Char} {d : Datum}
    (h : DenotesScalar text d rest) : rest.length < text.length := by
  cases h with
  | null skipped | yes skipped | no skipped =>
    have first := length_lt_of_skipBlanks skipped
    simp only [List.length_cons] at first
    omega
  | str skipped string =>
    have first := length_lt_of_skipBlanks skipped
    have second := length_le_of_readString string
    omega
  | negative skipped magnitude =>
    have first := length_lt_of_skipBlanks skipped
    have second := length_lt_of_readMagnitude magnitude
    omega
  | natural skipped _ magnitude =>
    have first := length_lt_of_skipBlanks skipped
    have second := length_lt_of_readMagnitude magnitude
    simp only [List.length_cons] at second
    omega

theorem DenotesKey.length_lt {text value : List Char} {key : String}
    (h : DenotesKey text key value) : value.length < text.length := by
  obtain ⟨body, more, quote, string, colon⟩ := h
  have first := length_lt_of_skipBlanks quote
  have second := length_le_of_readString string
  have third := length_lt_of_skipBlanks colon
  omega

theorem Denotes.lengths :
    (∀ {text d rest}, Denotes text d rest → rest.length < text.length) ∧
      (∀ {text xs rest}, DenotesElements text xs rest → rest.length < text.length) ∧
      ∀ {text ms rest}, DenotesMembers text ms rest → rest.length < text.length := by
  apply Denotes.induct (fun text _ rest => rest.length < text.length)
    (fun text _ rest => rest.length < text.length) (fun text _ rest => rest.length < text.length)
  case scalar => exact DenotesScalar.length_lt
  case noElements | noMembers =>
    intro text body rest opened closed
    exact Nat.lt_trans (length_lt_of_skipBlanks closed) (length_lt_of_skipBlanks opened)
  case someElements | someMembers =>
    intro text body rest parts opened _ ih
    exact Nat.lt_trans ih (length_lt_of_skipBlanks opened)
  case lastElement =>
    intro text more rest d _ closed ih
    exact Nat.lt_trans (length_lt_of_skipBlanks closed) ih
  case nextElement =>
    intro text more tail rest d xs _ comma _ ih tailIh
    have first := length_lt_of_skipBlanks comma
    omega
  case lastMember =>
    intro text start more rest key d colon _ closed ih
    have first := colon.length_lt
    have last := length_lt_of_skipBlanks closed
    omega
  case nextMember =>
    intro text start more tail rest key d ms colon _ comma _ ih tailIh
    have first := colon.length_lt
    have second := length_lt_of_skipBlanks comma
    omega

theorem Denotes.length_lt {text rest : List Char} {d : Datum} (h : Denotes text d rest) :
    rest.length < text.length :=
  Denotes.lengths.1 h

theorem DenotesElements.length_lt {text rest : List Char} {xs : List Datum}
    (h : DenotesElements text xs rest) : rest.length < text.length :=
  Denotes.lengths.2.1 h

theorem DenotesMembers.length_lt {text rest : List Char} {ms : List (String × Datum)}
    (h : DenotesMembers text ms rest) : rest.length < text.length :=
  Denotes.lengths.2.2 h

end Lengths

section Shapes

theorem DenotesScalar.nesting_eq_zero {text rest : List Char} {d : Datum}
    (h : DenotesScalar text d rest) : d.nesting = 0 := by
  cases h <;> rfl

theorem DenotesScalar.starts {text rest : List Char} {d : Datum} (h : DenotesScalar text d rest) :
    Starts (skipBlanks text) := by
  cases h with
  | null skipped | yes skipped | no skipped => exact ⟨_, _, skipped, by decide⟩
  | str skipped _ => exact ⟨_, _, skipped, by decide⟩
  | negative skipped _ => exact ⟨_, _, skipped, by decide⟩
  | natural skipped digit _ => exact ⟨_, _, skipped, starts_digit digit⟩

theorem Denotes.starts {text rest : List Char} {d : Datum} (h : Denotes text d rest) :
    Starts (skipBlanks text) := by
  cases h with
  | scalar scalar => exact scalar.starts
  | noElements skipped _ => exact ⟨_, _, skipped, by decide⟩
  | elements skipped _ => exact ⟨_, _, skipped, by decide⟩
  | noMembers skipped _ => exact ⟨_, _, skipped, by decide⟩
  | members skipped _ => exact ⟨_, _, skipped, by decide⟩

theorem DenotesElements.starts {text rest : List Char} {xs : List Datum}
    (h : DenotesElements text xs rest) : Starts (skipBlanks text) := by
  cases h with
  | last value _ => exact value.starts
  | next value _ _ => exact value.starts

theorem DenotesMembers.starts {text rest : List Char} {ms : List (String × Datum)}
    (h : DenotesMembers text ms rest) : Starts (skipBlanks text) := by
  cases h with
  | last colon _ _ | next colon _ _ _ =>
    obtain ⟨body, _, skipped, _⟩ := colon
    exact ⟨'"', body, skipped, by decide⟩

theorem DenotesScalar.skipBlanks_ne {text rest body : List Char} {d : Datum} {c : Char}
    (h : DenotesScalar text d rest) (opens : c = '[' ∨ c = '\x7b') : skipBlanks text ≠ c :: body := by
  have free : c ≠ 'n' ∧ c ≠ 't' ∧ c ≠ 'f' ∧ c ≠ '"' ∧ c ≠ '-' ∧ c.isDigit = false := by
    rcases opens with rfl | rfl <;> decide
  intro skipped
  cases h with
  | null same | yes same | no same | str same _ | negative same _ =>
    rw [skipped] at same
    simp [free] at same
  | natural same digit _ =>
    rw [skipped] at same
    cases same
    simp [free] at digit

end Shapes

end Verdict.Document
