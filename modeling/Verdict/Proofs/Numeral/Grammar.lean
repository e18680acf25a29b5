import Verdict.Proofs.Numeral.Digits
import Verdict.Proofs.Text.Search

set_option autoImplicit false

namespace Verdict.Numeral

inductive Sign : List Char → Bool → Prop where
  | none : Sign [] false
  | plus : Sign ['+'] false
  | minus : Sign ['-'] true

inductive Mantissa : List Char → Nat → Nat → Prop where
  | whole {digits : List Char} {n : Nat} : Spells 10 digits n → Mantissa digits n 0
  | pointed {whole fraction : List Char} {n : Nat} : Spells 10 (whole ++ fraction) n →
      Mantissa (whole ++ '.' :: fraction) n fraction.length

inductive Exponent : List Char → Int → Prop where
  | none : Exponent [] 0
  | power {mark : Char} {sign digits : List Char} {negative : Bool} {n : Nat} :
      mark = 'e' ∨ mark = 'E' → Sign sign negative → Spells 10 digits n →
      Exponent (mark :: (sign ++ digits)) (if negative then -(n : Int) else n)

def radixMarks : List (Char × Nat) :=
  [('x', 16), ('X', 16), ('o', 8), ('O', 8), ('b', 2), ('B', 2)]

inductive Decimal : List Char → Binary64 → Prop where
  | mk {sign mantissa exponent : List Char} {negative : Bool} {n places : Nat} {power : Int} :
      Sign sign negative → Mantissa mantissa n places → Exponent exponent power →
      Decimal (sign ++ (mantissa ++ exponent)) (.ofDecimal negative n (power - places))

/-- A numeral and its number: nothing at all is zero, and a number with a radix has to fit in 64 bits. -/
inductive Denotes : List Char → Binary64 → Prop where
  | empty : Denotes [] .zero
  | word {mark : Char} {radix n : Nat} {digits : List Char} : (mark, radix) ∈ radixMarks →
      Spells radix digits n → n < twoTo 64 → Denotes ('0' :: mark :: digits) (.ofNat n)
  | infinity {sign : List Char} {negative : Bool} : Sign sign negative →
      Denotes (sign ++ "Infinity".toList) (.infinite negative)
  | decimal {text : List Char} {x : Binary64} : Decimal text x → Denotes text x

inductive PlusDenotes : List Char → Binary64 → Prop where
  | mk {mark : Char} {radix n : Nat} {digits : List Char} : (mark, radix) ∈ radixMarks →
      Spells radix digits n → n < twoTo 64 →
      PlusDenotes ('0' :: mark :: '+' :: digits) (.ofNat n)

section Decimals

theorem splitSign_spec (text : List Char) :
    ∃ sign, Sign sign (splitSign text).1 ∧ text = sign ++ (splitSign text).2 := by
  unfold splitSign
  split
  · exact ⟨['-'], .minus, rfl⟩
  · exact ⟨['+'], .plus, rfl⟩
  · exact ⟨[], .none, rfl⟩

def Unsigned (text : List Char) : Prop :=
  ∀ c ∈ text.head?, c ≠ '+' ∧ c ≠ '-'

theorem splitSign_append {sign body : List Char} {negative : Bool} (h : Sign sign negative)
    (unsigned : Unsigned body) : splitSign (sign ++ body) = (negative, body) := by
  cases h with
  | plus | minus => rfl
  | none =>
    rw [List.nil_append]
    unfold splitSign
    split
    · exact absurd rfl (unsigned '-' rfl).2
    · exact absurd rfl (unsigned '+' rfl).1
    · rfl

theorem Spells.unsigned {n : Nat} {digits : List Char} (h : Spells 10 digits n) (rest : List Char) :
    Unsigned (digits ++ rest) := by
  obtain ⟨some, all, -⟩ := spells_ten_iff.mp h
  cases digits with
  | nil => exact absurd rfl some
  | cons d digits =>
    rintro c mem
    cases mem
    have digit := all d List.mem_cons_self
    constructor <;> rintro rfl <;> exact absurd digit (by decide)

theorem exponent?_eq_some_iff {text : List Char} {power : Int} :
    exponent? text = some power ↔ Exponent text power := by
  constructor
  · intro read
    cases text with
    | nil =>
      cases read
      exact .none
    | cons c rest =>
      simp only [exponent?, Bool.or_eq_true, beq_iff_eq, Option.ite_none_right_eq_some,
        Option.ite_none_left_eq_some, Option.some.injEq, not_or, Bool.not_eq_true,
        Bool.not_eq_false', List.isEmpty_eq_false_iff, List.all_eq_true] at read
      obtain ⟨marked, ⟨some, all⟩, rfl⟩ := read
      obtain ⟨sign, signed, parts⟩ := splitSign_spec rest
      have power := Exponent.power marked signed (spells_ten_iff.mpr ⟨some, all, rfl⟩)
      rwa [← parts] at power
  · intro h
    cases h with
    | none => rfl
    | @power mark sign digits negative n marked signed spelled =>
      obtain ⟨some, all, rfl⟩ := spells_ten_iff.mp spelled
      have split := splitSign_append signed (spelled.unsigned [])
      rw [List.append_nil] at split
      have digitsOnly : (digits.isEmpty || !digits.all Char.isDigit) = false := by
        simp [some, List.all_eq_true.mpr all]
      have mark : (mark == 'e' || mark == 'E') = true := by simpa using marked
      simp only [exponent?, split, digitsOnly, mark, if_true, Bool.false_eq_true, if_false]

theorem Exponent.stop {text : List Char} {power : Int} (h : Exponent text power) :
    ∀ c ∈ text.head?, c.isDigit = false ∧ c ≠ '.' := by
  cases h with
  | none => exact nofun
  | power marked _ _ =>
    rintro c mem
    cases mem
    rcases marked with rfl | rfl <;> decide

def cutFraction : List Char → List Char × List Char
  | '.' :: rest => (rest.takeWhile Char.isDigit, rest.dropWhile Char.isDigit)
  | text => ([], text)

theorem cutFraction_of_ne {text : List Char} (other : ∀ rest, text ≠ '.' :: rest) :
    cutFraction text = ([], text) := by
  unfold cutFraction
  split
  · exact absurd rfl (other _)
  · rfl

theorem decimal?_eq (text : List Char) :
    decimal? text =
      let body := (splitSign text).2
      let whole := body.takeWhile Char.isDigit
      let cut := cutFraction (body.dropWhile Char.isDigit)
      if whole.isEmpty && cut.1.isEmpty then none
      else (exponent? cut.2).map fun power =>
        Binary64.ofDecimal (splitSign text).1 (decimalValue (whole ++ cut.1)) (power - cut.1.length) := by
  simp only [decimal?]
  split
  · next rest point => simp only [point, cutFraction]
  · next other => simp only [cutFraction_of_ne other]

theorem mantissa_of_cut (body : List Char) :
    let whole := body.takeWhile Char.isDigit
    let cut := cutFraction (body.dropWhile Char.isDigit)
    whole ++ cut.1 ≠ [] → ∃ mantissa, body = mantissa ++ cut.2 ∧
      Mantissa mantissa (decimalValue (whole ++ cut.1)) cut.1.length := by
  intro whole cut some
  have digits (text : List Char) : ∀ c ∈ text.takeWhile Char.isDigit, c.isDigit :=
    fun c mem => List.all_eq_true.mp List.all_takeWhile c mem
  have parts : body = whole ++ body.dropWhile Char.isDigit := List.takeWhile_append_dropWhile.symm
  simp only [cut, cutFraction] at some ⊢
  split at some
  · next rest after =>
    refine ⟨whole ++ '.' :: rest.takeWhile Char.isDigit, ?_, .pointed (spells_ten_iff.mpr ⟨some, ?_, rfl⟩)⟩
    · rw [List.append_assoc, List.cons_append, List.takeWhile_append_dropWhile, ← after, ← parts]
    · exact List.forall_mem_append.mpr ⟨digits body, digits rest⟩
  · rw [List.append_nil] at some ⊢
    exact ⟨whole, parts, .whole (spells_ten_iff.mpr ⟨some, digits body, rfl⟩)⟩

theorem Mantissa.cut {mantissa rest : List Char} {n places : Nat} (h : Mantissa mantissa n places)
    (stop : ∀ c ∈ rest.head?, c.isDigit = false ∧ c ≠ '.') :
    ∃ whole fraction, (mantissa ++ rest).takeWhile Char.isDigit = whole ∧
      cutFraction ((mantissa ++ rest).dropWhile Char.isDigit) = (fraction, rest) ∧
      whole ++ fraction ≠ [] ∧ decimalValue (whole ++ fraction) = n ∧ fraction.length = places := by
  have ends : ∀ c ∈ rest.head?, c.isDigit = false := fun c mem => (stop c mem).1
  cases h with
  | whole spelled =>
    obtain ⟨some, all, value⟩ := spells_ten_iff.mp spelled
    refine ⟨mantissa, [], Text.takeWhile_append_of_stop all ends, ?_, ?_, ?_, rfl⟩
    · rw [Text.dropWhile_append_of_stop all ends, cutFraction_of_ne]
      rintro after rfl
      exact (stop '.' rfl).2 rfl
    · rwa [List.append_nil]
    · rwa [List.append_nil]
  | @pointed whole fraction _ spelled =>
    obtain ⟨some, all, value⟩ := spells_ten_iff.mp spelled
    obtain ⟨allWhole, allFraction⟩ := List.forall_mem_append.mp all
    have point : ∀ c ∈ ('.' :: (fraction ++ rest)).head?, c.isDigit = false := by
      rintro c ⟨⟩
      rfl
    rw [List.append_assoc, List.cons_append]
    refine ⟨whole, fraction, Text.takeWhile_append_of_stop allWhole point, ?_, some, value, rfl⟩
    rw [Text.dropWhile_append_of_stop allWhole point, cutFraction,
      Text.takeWhile_append_of_stop allFraction ends, Text.dropWhile_append_of_stop allFraction ends]

theorem Mantissa.unsigned {mantissa : List Char} {n places : Nat} (h : Mantissa mantissa n places)
    (rest : List Char) : Unsigned (mantissa ++ rest) := by
  cases h with
  | whole spelled => exact spelled.unsigned rest
  | @pointed whole fraction _ spelled =>
    cases whole with
    | nil =>
      rintro c ⟨⟩
      decide
    | cons d whole => exact spelled.unsigned []

theorem decimal?_eq_some_iff {text : List Char} {x : Binary64} :
    decimal? text = some x ↔ Decimal text x := by
  constructor
  · intro read
    rw [decimal?_eq] at read
    simp only [Option.ite_none_left_eq_some, Option.map_eq_some_iff] at read
    obtain ⟨some, power, exponent, rfl⟩ := read
    obtain ⟨sign, signed, parts⟩ := splitSign_spec text
    obtain ⟨mantissa, cut, spelled⟩ := mantissa_of_cut (splitSign text).2 (by simpa using some)
    rw [cut] at parts
    have decimal := Decimal.mk signed spelled (exponent?_eq_some_iff.mp exponent)
    rwa [← parts] at decimal
  · rintro ⟨signed, spelled, ended⟩
    obtain ⟨whole, fraction, taken, cut, some, rfl, rfl⟩ := spelled.cut ended.stop
    rw [decimal?_eq, splitSign_append signed (spelled.unsigned _)]
    simp only [taken, cut, exponent?_eq_some_iff.mpr ended]
    rw [if_neg (by simpa using some)]
    rfl

end Decimals

section Numerals

theorem radixOf?_eq_some_iff {c : Char} {radix : Nat} :
    radixOf? c = some radix ↔ (c, radix) ∈ radixMarks := by
  constructor
  · intro h
    unfold radixOf? at h
    split at h <;> cases h <;> decide
  · intro mem
    simp only [radixMarks, List.mem_cons, Prod.mk.injEq, List.not_mem_nil, or_false] at mem
    rcases mem with ⟨rfl, rfl⟩ | ⟨rfl, rfl⟩ | ⟨rfl, rfl⟩ | ⟨rfl, rfl⟩ | ⟨rfl, rfl⟩ | ⟨rfl, rfl⟩ <;> rfl

theorem radix_le_of_mem {mark : Char} {radix : Nat} (mem : (mark, radix) ∈ radixMarks) : radix ≤ 36 := by
  have all : ∀ m ∈ radixMarks, m.2 ≤ 36 := by decide
  exact all _ mem

theorem decimal?_of_mark {mark : Char} {radix : Nat} (mem : (mark, radix) ∈ radixMarks)
    (digits : List Char) : decimal? ('0' :: mark :: digits) = none := by
  simp only [radixMarks, List.mem_cons, Prod.mk.injEq, List.not_mem_nil, or_false] at mem
  rcases mem with ⟨rfl, _⟩ | ⟨rfl, _⟩ | ⟨rfl, _⟩ | ⟨rfl, _⟩ | ⟨rfl, _⟩ | ⟨rfl, _⟩ <;> rfl

theorem infinity?_eq_some_iff {text : List Char} {x : Binary64} :
    infinity? text = some x ↔ ∃ sign negative, Sign sign negative ∧
      text = sign ++ "Infinity".toList ∧ x = .infinite negative := by
  unfold infinity?
  constructor
  · intro read
    split at read
    · next unsigned =>
      cases read
      rcases unsigned with rfl | rfl
      · exact ⟨[], false, .none, rfl, rfl⟩
      · exact ⟨['+'], false, .plus, rfl, rfl⟩
    · split at read
      · next signed =>
        cases read
        exact ⟨['-'], true, .minus, signed, rfl⟩
      · cases read
  · rintro ⟨sign, negative, signed, rfl, rfl⟩
    cases signed <;> rfl

theorem decimal?_infinity {sign : List Char} {negative : Bool} (signed : Sign sign negative) :
    decimal? (sign ++ "Infinity".toList) = none := by
  cases signed <;> rfl

theorem readTrimmed?_of_mark {mark : Char} {radix n : Nat} (mem : (mark, radix) ∈ radixMarks)
    {digits : List Char} (read : unsigned? radix digits = some n) (fits : n < twoTo 64) :
    readTrimmed? ('0' :: mark :: digits) = some (.ofNat n) := by
  simp only [readTrimmed?, radixOf?_eq_some_iff.mpr mem, word?_eq_some_iff.mpr ⟨read, fits⟩,
    Option.map_some]

theorem readTrimmed?_of_decimal? {text : List Char} {x : Binary64} (read : decimal? text = some x) :
    readTrimmed? text = some x := by
  unfold readTrimmed?
  split
  · cases read
  · next c digits =>
    split
    · next radix mark =>
      rw [decimal?_of_mark (radixOf?_eq_some_iff.mp mark)] at read
      cases read
    · exact read
  · cases word : infinity? text with
    | none => rw [Option.none_or, read]
    | some y =>
      obtain ⟨sign, negative, signed, rfl, -⟩ := infinity?_eq_some_iff.mp word
      rw [decimal?_infinity signed] at read
      cases read

theorem denotes_of_readTrimmed? {text : List Char} {x : Binary64} (read : readTrimmed? text = some x) :
    Denotes text x ∨ PlusDenotes text x := by
  unfold readTrimmed? at read
  split at read
  · cases read
    exact .inl .empty
  · next c digits =>
    split at read
    · next radix mark =>
      obtain ⟨n, word, rfl⟩ := Option.map_eq_some_iff.mp read
      obtain ⟨number, fits⟩ := word?_eq_some_iff.mp word
      have mem := radixOf?_eq_some_iff.mp mark
      rcases (unsigned?_eq_some_iff (radix_le_of_mem mem)).mp number with spelled | ⟨rest, rfl, spelled⟩
      · exact .inl (.word mem spelled fits)
      · exact .inr (.mk mem spelled fits)
    · exact .inl (.decimal (decimal?_eq_some_iff.mp read))
  · rcases Option.or_eq_some_iff.mp read with word | ⟨-, decimal⟩
    · obtain ⟨sign, negative, signed, rfl, rfl⟩ := infinity?_eq_some_iff.mp word
      exact .inl (.infinity signed)
    · exact .inl (.decimal (decimal?_eq_some_iff.mp decimal))

theorem readTrimmed?_eq_some_iff {text : List Char} {x : Binary64} :
    readTrimmed? text = some x ↔ Denotes text x ∨ PlusDenotes text x := by
  refine ⟨denotes_of_readTrimmed?, ?_⟩
  rintro (denotes | ⟨mem, spelled, fits⟩)
  · cases denotes with
    | empty => rfl
    | word mem spelled fits =>
      exact readTrimmed?_of_mark mem ((unsigned?_eq_some_iff (radix_le_of_mem mem)).mpr (.inl spelled)) fits
    | infinity signed => cases signed <;> rfl
    | decimal decimal => exact readTrimmed?_of_decimal? (decimal?_eq_some_iff.mpr decimal)
  · have number := (unsigned?_eq_some_iff (radix_le_of_mem mem)).mpr (.inr ⟨_, rfl, spelled⟩)
    exact readTrimmed?_of_mark mem number fits

theorem Denotes.unique {text : List Char} {x y : Binary64} (hx : Denotes text x) (hy : Denotes text y) :
    x = y := by
  have read := readTrimmed?_eq_some_iff.mpr (.inl hx)
  exact Option.some.inj (read.symm.trans (readTrimmed?_eq_some_iff.mpr (.inl hy)))

theorem PlusDenotes.not_denotes {text : List Char} {x y : Binary64} (h : PlusDenotes text x) :
    ¬Denotes text y := by
  obtain ⟨mem, -, -⟩ := h
  intro denotes
  generalize same : '0' :: _ :: '+' :: _ = text at denotes
  cases denotes with
  | empty => cases same
  | word mem' spelled =>
    cases same
    have read := (spells_iff.mp spelled).2
    rw [digitsFrom?, digitValue?_plus (radix_le_of_mem mem')] at read
    cases read
  | infinity signed => cases signed <;> cases same
  | decimal decimal =>
    cases same
    have read := decimal?_eq_some_iff.mpr decimal
    rw [decimal?_of_mark mem] at read
    cases read

/-- What is read of a text, apart from blanks at its ends: numerals, each as the number it denotes, and
beside them numbers with a radix and a plus sign after its mark. -/
theorem read?_eq_some_iff {text : String} {x : Binary64} :
    read? text = some x ↔
      Denotes (Text.trim text.toList) x ∨ PlusDenotes (Text.trim text.toList) x :=
  readTrimmed?_eq_some_iff

/-- Not all that is read is a numeral. -/
theorem exists_read?_of_no_numeral :
    ∃ text, (read? text).isSome ∧ ∀ x, ¬Denotes (Text.trim text.toList) x := by
  have trimmed : Text.trim "0x+10".toList = ['0', 'x', '+', '1', '0'] := by decide +kernel
  have spelled : Spells 16 ['1', '0'] 16 := ⟨nofun, [1, 0], rfl, rfl⟩
  have plus : PlusDenotes ['0', 'x', '+', '1', '0'] (.ofNat 16) :=
    .mk (by decide) spelled (by decide)
  refine ⟨"0x+10", ?_, fun x => ?_⟩
  · rw [read?_eq_some_iff.mpr (.inr (trimmed ▸ plus))]
    rfl
  · rw [trimmed]
    exact plus.not_denotes

end Numerals

end Verdict.Numeral
