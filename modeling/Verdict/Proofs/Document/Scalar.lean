import Verdict.Document.Scalar
import Verdict.Document.Writer
import Verdict.Proofs.Document.Spelling
import Verdict.Proofs.Text.Digits

set_option autoImplicit false

namespace Verdict.Document

section Strings

theorem hexValue?_eq (c : Char) : hexValue? c = Numeral.digitValue? 16 c := by
  have ends : '0'.toNat = 48 ∧ '9'.toNat = 57 ∧ 'a'.toNat = 97 ∧ 'f'.toNat = 102 ∧ 'z'.toNat = 122 ∧
    'A'.toNat = 65 ∧ 'F'.toNat = 70 ∧ 'Z'.toNat = 90 := by decide
  have order (a b : Char) : a ≤ b ↔ a.toNat ≤ b.toNat := Iff.rfl
  unfold hexValue? Numeral.digitValue?
  by_cases digit : c.isDigit
  · have bounds := Char.isDigit_iff_toNat.mp digit
    simp only [digit, if_true]
    rw [if_pos (by omega)]
  · simp only [digit, if_false, Bool.false_eq_true, order]
    grind

theorem Unit.hexUnit? {digits : List Char} {n : Nat} (h : Unit digits n) :
    ∃ a b c d, digits = [a, b, c, d] ∧ hexUnit? a b c d = some n := by
  obtain ⟨four, spelled⟩ := h
  match digits, four with
  | [a, b, c, d], _ =>
    refine ⟨a, b, c, d, rfl, ?_⟩
    have read := (Numeral.spells_iff.mp spelled).2
    simp only [Document.hexUnit?, hexValue?_eq]
    simp only [Numeral.digitsFrom?] at read
    grind

theorem Unit.readUnit {digits : List Char} {n : Nat} (h : Unit digits n) (rest : List Char) :
    readUnit (digits ++ rest) = .ok (n, rest) := by
  obtain ⟨a, b, c, d, rfl, unit⟩ := h.hexUnit?
  simp only [Document.readUnit, List.cons_append, List.nil_append, unit]

theorem readEscape_mark {mark c : Char} (h : (mark, c) ∈ escapes) (rest : List Char) :
    readEscape (mark :: rest) = .ok (c, rest) := by
  simp only [escapes, List.mem_cons, Prod.mk.injEq, List.not_mem_nil, or_false] at h
  rcases h with ⟨rfl, rfl⟩ | ⟨rfl, rfl⟩ | ⟨rfl, rfl⟩ | ⟨rfl, rfl⟩ | ⟨rfl, rfl⟩ | ⟨rfl, rfl⟩ |
    ⟨rfl, rfl⟩ | ⟨rfl, rfl⟩ <;> rfl

theorem readEscape_unit {digits : List Char} {n : Nat} (unit : Unit digits n)
    (scalar : ¬(0xd800 ≤ n ∧ n ≤ 0xdfff)) (rest : List Char) :
    readEscape ('u' :: (digits ++ rest)) = .ok (Char.ofNat n, rest) := by
  have notLow : isLowUnit n = false := by simp [isLowUnit]; omega
  have notHigh : isHighUnit n = false := by simp [isHighUnit]; omega
  simp [readEscape, readScalar, unit.readUnit, notLow, notHigh]

theorem readEscape_pair {high low : List Char} {m n : Nat} (first : Unit high m)
    (second : Unit low n) (isHigh : 0xd800 ≤ m ∧ m ≤ 0xdbff) (isLow : 0xdc00 ≤ n ∧ n ≤ 0xdfff)
    (rest : List Char) :
    readEscape ('u' :: (high ++ '\\' :: 'u' :: (low ++ rest))) = .ok (pairScalar m n, rest) := by
  have notLow : isLowUnit m = false := by simp [isLowUnit]; omega
  have high : isHighUnit m = true := by simp [isHighUnit, isHigh]
  have low : isLowUnit n = true := by simp [isLowUnit, isLow]
  simp [readEscape, readScalar, first.readUnit, second.readUnit, notLow, high, low]

theorem readQuoted_escaped {c : Char} {text rest : List Char}
    (h : readEscape text = .ok (c, rest)) (fuel : Nat) (read : List Char) :
    readQuoted (fuel + 1) read ('\\' :: text) = readQuoted fuel (c :: read) rest := by
  simp only [readQuoted, h]

theorem SpellsChar.readQuoted {text : List Char} {c : Char} (h : SpellsChar text c)
    (fuel : Nat) (read rest : List Char) :
    readQuoted (fuel + 1) read (text ++ rest) = readQuoted fuel (c :: read) rest := by
  cases h with
  | plain printable notQuote notBackslash =>
    have visible : ¬c.toNat < 0x20 := by omega
    simp [Document.readQuoted, visible]
  | escape mem => exact readQuoted_escaped (readEscape_mark mem rest) fuel read
  | unit unit scalar => exact readQuoted_escaped (readEscape_unit unit scalar rest) fuel read
  | @pair high low m n first atLeast atMost second atLeast' atMost' =>
    have escape := readEscape_pair first second ⟨atLeast, atMost⟩ ⟨atLeast', atMost'⟩ rest
    simp only [List.cons_append, List.append_assoc]
    exact readQuoted_escaped escape fuel read

theorem SpellsChar.length_pos {text : List Char} {c : Char} (h : SpellsChar text c) :
    0 < text.length := by
  cases h <;> simp

theorem SpellsChars.readQuoted {text cs : List Char} (h : SpellsChars text cs) {fuel : Nat}
    (enough : text.length < fuel) (read rest : List Char) :
    readQuoted fuel read (text ++ '"' :: rest) = .ok (String.ofList (read.reverse ++ cs), rest) := by
  induction h generalizing fuel read with
  | nil =>
    obtain ⟨fuel, rfl⟩ : ∃ n, fuel = n + 1 := ⟨fuel - 1, by omega⟩
    simp [Document.readQuoted]
  | @cons text more c cs char chars ih =>
    have used := char.length_pos
    rw [List.length_append] at enough
    obtain ⟨fuel, rfl⟩ : ∃ n, fuel = n + 1 := ⟨fuel - 1, by omega⟩
    rw [List.append_assoc, char.readQuoted, ih (by omega)]
    simp

theorem SpellsChars.readString {text cs : List Char} (h : SpellsChars text cs) (rest : List Char) :
    readString (text ++ '"' :: rest) = .ok (String.ofList cs, rest) := by
  rw [Document.readString, h.readQuoted (by rw [List.length_append]; omega)]
  rfl

theorem readUnit_eq_ok {text rest : List Char} {n : Nat} (h : readUnit text = .ok (n, rest)) :
    ∃ digits, text = digits ++ rest ∧ Unit digits n := by
  unfold readUnit at h
  split at h
  · next a b c d _ =>
    split at h
    · next unit =>
      cases h
      refine ⟨[a, b, c, d], rfl, rfl, Numeral.spells_iff.mpr ⟨List.cons_ne_nil _ _, ?_⟩⟩
      simp only [hexUnit?, hexValue?_eq] at unit
      simp only [Numeral.digitsFrom?]
      grind
    · cases h
  · split at h <;> cases h

theorem readScalar_eq_ok {text rest : List Char} {c : Char} (h : readScalar text = .ok (c, rest)) :
    ∃ used, text = used ++ rest ∧ SpellsChar ('\\' :: 'u' :: used) c := by
  unfold readScalar at h
  split at h
  · cases h
  · next n after read =>
    obtain ⟨digits, rfl, unit⟩ := readUnit_eq_ok read
    split at h
    · cases h
    · next notLow =>
      simp only [isLowUnit, Bool.and_eq_true, decide_eq_true_eq, not_and] at notLow
      split at h
      · next high =>
        simp only [isHighUnit, Bool.and_eq_true, decide_eq_true_eq] at high
        split at h
        · cases h
        · cases h
        · split at h
          · cases h
          · next read' =>
            obtain ⟨low, rfl, unit'⟩ := readUnit_eq_ok read'
            split at h
            · next isLow =>
              simp only [isLowUnit, Bool.and_eq_true, decide_eq_true_eq] at isLow
              rw [Except.ok.injEq, Prod.mk.injEq] at h
              obtain ⟨rfl, rfl⟩ := h
              exact ⟨digits ++ '\\' :: 'u' :: low, by simp,
                .pair unit high.1 high.2 unit' isLow.1 isLow.2⟩
            · cases h
        · cases h
      · next notHigh =>
        simp only [isHighUnit, Bool.and_eq_true, decide_eq_true_eq, not_and] at notHigh
        cases h
        exact ⟨digits, rfl, .unit unit (by omega)⟩

theorem readEscape_eq_ok {text rest : List Char} {c : Char} (h : readEscape text = .ok (c, rest)) :
    ∃ used, text = used ++ rest ∧ SpellsChar ('\\' :: used) c := by
  unfold readEscape at h
  split at h
  case h_1 => cases h
  case h_10 =>
    obtain ⟨used, rfl, spelled⟩ := readScalar_eq_ok h
    exact ⟨'u' :: used, rfl, spelled⟩
  case h_11 => cases h
  -- one character stands for itself or for a control
  all_goals
    cases h
    exact ⟨[_], rfl, .escape (by decide)⟩

theorem readQuoted_eq_ok {fuel : Nat} {read text rest : List Char} {s : String}
    (h : readQuoted fuel read text = .ok (s, rest)) :
    ∃ body cs, text = body ++ '"' :: rest ∧ SpellsChars body cs ∧
      s = String.ofList (read.reverse ++ cs) := by
  induction fuel generalizing read text with
  | zero => cases h
  | succ fuel ih =>
    unfold readQuoted at h
    split at h
    · cases h
    · cases h
      exact ⟨[], [], rfl, .nil, by simp⟩
    · split at h
      · next c _ escape =>
        obtain ⟨used, rfl, spelled⟩ := readEscape_eq_ok escape
        obtain ⟨body, cs, rfl, more, rfl⟩ := ih h
        exact ⟨'\\' :: used ++ body, c :: cs, by simp, .cons spelled more, by simp⟩
      · cases h
    · next c _ notQuote notBackslash =>
      split at h
      · cases h
      · next printable =>
        obtain ⟨body, cs, rfl, more, rfl⟩ := ih h
        have plain := SpellsChar.plain (by omega) (fun same => notQuote same) (fun same => notBackslash same)
        exact ⟨[c] ++ body, c :: cs, rfl, .cons plain more, by simp⟩

theorem readString_eq_ok {text rest : List Char} {s : String}
    (h : readString text = .ok (s, rest)) :
    ∃ body cs, text = body ++ '"' :: rest ∧ SpellsChars body cs ∧ s = String.ofList cs :=
  readQuoted_eq_ok h

theorem unit_control : ∀ n < 0x20, Unit ['0', '0', hexDigit (n / 16), hexDigit (n % 16)] n := by
  intro n control
  have digits : ∀ n < 0x20,
      Numeral.digitsFrom? 16 0 ['0', '0', hexDigit (n / 16), hexDigit (n % 16)] = some n := by
    decide
  exact ⟨rfl, Numeral.spells_iff.mpr ⟨List.cons_ne_nil _ _, digits n control⟩⟩

theorem spellsChar_escapeChar (c : Char) : SpellsChar (escapeChar c) c := by
  unfold escapeChar
  split
  case h_8 notQuote notBackslash _ _ _ _ _ =>
    split
    case isTrue control =>
      have unit := SpellsChar.unit (unit_control _ control) (by omega)
      rwa [Char.ofNat_toNat] at unit
    case isFalse plain => exact .plain (by omega) notQuote notBackslash
  all_goals exact .escape (by decide)

theorem spellsChars_escape (text : List Char) : SpellsChars (text.flatMap escapeChar) text := by
  induction text with
  | nil => exact .nil
  | cons c text ih => exact .cons (spellsChar_escapeChar c) ih

theorem readString_escape (text rest : List Char) :
    readString (text.flatMap escapeChar ++ '"' :: rest) = .ok (String.ofList text, rest) :=
  (spellsChars_escape text).readString rest

end Strings

section Integers

def NumberEnds (rest : List Char) : Prop :=
  ∀ c ∈ rest.head?, c.isDigit = false ∧ c ≠ '.' ∧ isExponentMark c = false

theorem le_ofDigitChars (digits : List Char) (start : Nat) : start ≤ Nat.ofDigitChars 10 digits start := by
  rw [Nat.ofDigitChars_eq_ofDigitChars_zero]
  exact Nat.le_trans (Nat.le_mul_of_pos_left _ (Nat.pow_pos (by decide))) (Nat.le_add_right _ _)

theorem takeDigits_append {taken left : List Char} {start : Nat}
    (fits : Nat.ofDigitChars 10 taken start < 0x10000000000000000)
    (stop : ∀ c ∈ left.head?, 0x10000000000000000 ≤ Nat.ofDigitChars 10 (taken ++ [c]) start) :
    takeDigits start (taken ++ left) =
      ⟨Nat.ofDigitChars 10 taken start, taken.length, left.length⟩ := by
  induction taken generalizing start with
  | nil =>
    cases left with
    | nil => simp [takeDigits]
    | cons c left =>
      have beyond := stop c rfl
      simp only [List.nil_append, Nat.ofDigitChars_cons, Nat.ofDigitChars_nil, Nat.mul_comm 10] at beyond
      rw [List.nil_append, takeDigits, if_neg (Nat.not_lt.mpr beyond)]
      simp
  | cons d taken ih =>
    simp only [List.cons_append, Nat.ofDigitChars_cons, Nat.mul_comm 10] at fits stop ⊢
    have next := Nat.lt_of_le_of_lt (le_ofDigitChars taken _) fits
    simp only [takeDigits, next, if_true, ih fits stop, List.length_cons]

theorem takeDigits_eq {digits : List Char} {value : Nat}
    (fits : Nat.ofDigitChars 10 digits value < 0x10000000000000000) :
    takeDigits value digits = ⟨Nat.ofDigitChars 10 digits value, digits.length, 0⟩ := by
  have all := takeDigits_append fits (nofun : ∀ c ∈ ([] : List Char).head?, _)
  rwa [List.append_nil] at all

theorem NumberEnds.stop {rest : List Char} (ends : NumberEnds rest) :
    ∀ c ∈ rest.head?, c.isDigit = false :=
  fun c mem => (ends c mem).1

theorem NumberEnds.readPower_eq {rest : List Char} (ends : NumberEnds rest) (negative : Bool)
    (significand : Nat) (exponent : Int) (plain : Except ReadFault Number) :
    readPower negative significand exponent plain rest = plain.map (·, rest) := by
  unfold readPower
  split
  case h_1 c tail => simp [(ends c rfl).2.2]
  case h_2 => rfl

theorem readMagnitude_toDigits (negative : Bool) {n : Nat} (fits : n < 0x10000000000000000)
    {rest : List Char} (ends : NumberEnds rest) :
    readMagnitude negative (Nat.toDigits 10 n ++ rest) = (wholeNumber negative n).map (·, rest) := by
  have all : ∀ c ∈ Nat.toDigits 10 n, c.isDigit := fun c => Text.isDigit_of_mem_toDigits
  have stop : ∀ c ∈ rest.head?, c.isDigit = false := fun c mem => (ends c mem).1
  have whole : takeDigits 0 (Nat.toDigits 10 n) = ⟨n, (Nat.toDigits 10 n).length, 0⟩ := by
    rw [takeDigits_eq (by rwa [Nat.ofDigitChars_ten_toDigits]), Nat.ofDigitChars_ten_toDigits]
  unfold readMagnitude
  rw [Text.takeWhile_append_of_stop all stop, Text.dropWhile_append_of_stop all stop]
  split
  case h_1 empty => exact absurd empty Nat.toDigits_ne_nil
  case h_2 digits =>
    rcases Nat.eq_zero_or_pos n with rfl | positive
    · cases digits
    · exact absurd (by rw [digits]; rfl) (Text.head?_toDigits positive)
  case h_3 =>
    rw [whole]
    dsimp only
    split
    case h_1 => exact absurd rfl (ends '.' rfl).2.1
    case h_2 => rw [ends.readPower_eq, if_pos rfl]

theorem wholeNumber_natAbs {i : Int} (fits : -0x8000000000000000 ≤ i ∧ i < 0x10000000000000000) :
    wholeNumber (decide (i < 0)) i.natAbs = .ok (.int i fits) := by
  by_cases negative : i < 0
  · have range : 0 < i.natAbs ∧ i.natAbs ≤ 0x8000000000000000 := by omega
    have back : -(i.natAbs : Int) = i := by omega
    rw [decide_eq_true negative, wholeNumber, if_neg (by decide), if_pos range, back, Number.ofInt?,
      dif_pos fits]
  · have back : (i.natAbs : Int) = i := by omega
    rw [decide_eq_false negative, wholeNumber, if_pos (by decide), back, Number.ofInt?, dif_pos fits]

end Integers

end Verdict.Document
