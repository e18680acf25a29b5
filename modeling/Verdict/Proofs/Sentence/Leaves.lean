import Verdict.Proofs.Sentence.Reader
import Verdict.Proofs.Text.Digits
import Verdict.Proofs.Text.Search

set_option autoImplicit false

namespace Verdict

namespace Literal

def escape (c : Char) : List Char :=
  if c = '\\' then ['\\', '\\'] else if c = '"' then ['\\', '"'] else [c]

theorem escape_eq (c : Char) : escape c = ['\\', c] ∨ escape c = [c] := by
  unfold escape
  split
  · next slash => exact .inl (slash ▸ rfl)
  · split
    · next quote => exact .inl (quote ▸ rfl)
    · exact .inr rfl

theorem stringText_eq (text : List Char) :
    stringText text = '"' :: text.flatMap escape ++ ['"'] := by
  unfold stringText replaceChar
  rw [List.flatMap_assoc]
  congr 3
  funext c
  by_cases slash : c = '\\'
  · subst slash
    rfl
  · by_cases quote : c = '"'
    · subst quote
      rfl
    · simp [escape, slash, quote]

theorem pattern_text_of_ne {source : String} (bare : ∀ rest, source.toList ≠ '/' :: rest) :
    text .pattern (.str source) = '/' :: source.toList ++ ['/'] := by
  simp only [text, patternText]

theorem pattern_text {source : String} (plain : '/' ∉ source.toList) :
    text .pattern (.str source) = '/' :: source.toList ++ ['/'] :=
  pattern_text_of_ne fun _ same => plain (same ▸ List.mem_cons_self)

end Literal

namespace Sentence

theorem readQuoted_escape (text rest : List Char) :
    readQuoted (text.flatMap Literal.escape ++ '"' :: rest) = some (text, rest) := by
  induction text with
  | nil => rfl
  | cons c text ih =>
    simp only [List.flatMap_cons, List.append_assoc]
    by_cases slash : c = '\\'
    · subst slash
      simp [Literal.escape, readQuoted, ih]
    · by_cases quote : c = '"'
      · subst quote
        simp [Literal.escape, readQuoted, ih]
      · simp [Literal.escape, slash, quote, readQuoted, ih]

def Closed (rest : List Char) : Prop := ∀ c ∈ rest.head?, c ∈ [' ', ',', ')', ']']

structure Ends (rest : List Char) : Prop where
  closed : Closed rest
  unlinked : readLink rest = none

theorem Closed.stop {rest : List Char} (closed : Closed rest) :
    ∀ c ∈ rest.head?, isNameChar c = false ∧ c.isDigit = false ∧ c ≠ '(' := by
  intro c mem
  have among := closed c mem
  simp only [List.mem_cons, List.not_mem_nil, or_false] at among
  rcases among with rfl | rfl | rfl | rfl <;> decide

theorem Closed.blank (rest : List Char) : Closed (' ' :: rest) := by simp [Closed]

theorem Ends.nil : Ends [] := ⟨by simp [Closed], rfl⟩

theorem Ends.comma (rest : List Char) : Ends (',' :: rest) := ⟨by simp [Closed], rfl⟩

theorem Ends.bracket (rest : List Char) : Ends (']' :: rest) := ⟨by simp [Closed], rfl⟩

theorem Ends.parenthesis (rest : List Char) : Ends (')' :: rest) := ⟨by simp [Closed], rfl⟩

theorem Ends.logical {op : Operator} (logical : Phrase.isLogical op) (rest : List Char) :
    Ends (' ' :: op.symbol.toList ++ ' ' :: rest) := by
  refine ⟨.blank _, ?_⟩
  cases op <;> first | rfl | simp [Phrase.isLogical] at logical

theorem readLink_symbol (link : Link) (rest : List Char) :
    readLink (' ' :: link.symbol.toList ++ ' ' :: rest) = some (link, rest) := by
  cases link <;> rfl

theorem readLogical_symbol {op : Operator} (logical : Phrase.isLogical op) (rest : List Char) :
    readLogical (' ' :: op.symbol.toList ++ ' ' :: rest) = some (op, rest) := by
  cases op <;> first | rfl | simp [Phrase.isLogical] at logical

section Leaves

variable (read : Reader Sentence) {rest : List Char}

theorem isPlainName_iff {name : String} :
    isPlainName name ↔ ∃ c tail, name.toList = c :: tail ∧ isNameStart c ∧
      (∀ d ∈ tail, isNameChar d) ∧ name ∉ reservedWords := by
  unfold isPlainName
  cases name.toList with
  | nil => simp
  | cons c tail => simp [and_assoc]

theorem all_isNameChar {name : String} (plain : isPlainName name) :
    ∀ c ∈ name.toList, isNameChar c := by
  obtain ⟨c, tail, text, start, all, _⟩ := isPlainName_iff.mp plain
  intro d mem
  rw [text] at mem
  rcases List.mem_cons.mp mem with rfl | mem
  · simp [isNameChar, start]
  · exact all d mem

theorem isNameStart_iff {c : Char} :
    isNameStart c ↔ 65 ≤ c.toNat ∧ c.toNat ≤ 90 ∨ 97 ≤ c.toNat ∧ c.toNat ≤ 122 ∨
      c.toNat = 95 ∨ 128 ≤ c.toNat := by
  have underscore : c = '_' ↔ c.toNat = 95 := by
    rw [← Char.toNat_inj]
    rfl
  have upper : c.isUpper ↔ 65 ≤ c.toNat ∧ c.toNat ≤ 90 := decide_eq_true_iff
  have lower : c.isLower ↔ 97 ≤ c.toNat ∧ c.toNat ≤ 122 := by
    change (decide (97 ≤ c.val) && decide (c.val ≤ 122)) = true ↔ _
    rw [Bool.and_eq_true, decide_eq_true_iff, decide_eq_true_iff]
    rfl
  have alpha : c.isAlpha ↔ c.isUpper ∨ c.isLower := Bool.or_eq_true_iff
  simp only [isNameStart, Bool.or_eq_true, decide_eq_true_eq, beq_iff_eq, alpha, upper, lower,
    underscore, or_assoc]

theorem readTerm_eq_readNamed {c : Char} (start : isNameStart c) (tail : List Char) :
    readTerm read (c :: tail) = readNamed read (c :: tail) := by
  have digit : c.isDigit = false := by
    have range := isNameStart_iff.mp start
    simp only [Char.isDigit, Bool.and_eq_false_iff, decide_eq_false_iff_not, UInt32.le_iff_toNat_le,
      ge_iff_le]
    change ¬ 48 ≤ c.toNat ∨ ¬ c.toNat ≤ 57
    omega
  unfold readTerm
  split
  case h_1 same => cases same
  case h_8 same =>
    cases same
    simp [digit]
  all_goals
    rename_i same
    cases same
    exact absurd start (by decide)

theorem readTerm_digit {c : Char} (digit : c.isDigit) (tail : List Char) :
    readTerm read (c :: tail) = readInt false (c :: tail) := by
  unfold readTerm
  split
  case h_1 same => cases same
  case h_8 same =>
    cases same
    simp [digit]
  all_goals
    rename_i same
    cases same
    exact absurd digit (by decide)

theorem readTerm_word {c : Char} {word : List Char} (start : isNameStart c)
    (all : (c :: word).all isNameChar) (stop : ∀ d ∈ rest.head?, isNameChar d = false) :
    readTerm read (c :: word ++ rest) = readNamedAs read (String.ofList (c :: word)) rest := by
  have all := List.all_eq_true.mp all
  rw [List.cons_append, readTerm_eq_readNamed read start, ← List.cons_append, readNamed,
    Text.takeWhile_append_of_stop all stop, Text.dropWhile_append_of_stop all stop]

theorem readTerm_name {name : String} (plain : isPlainName name)
    (stop : ∀ c ∈ rest.head?, isNameChar c = false) :
    readTerm read (name.toList ++ rest) = readCallOrField read name rest := by
  have all := all_isNameChar plain
  obtain ⟨c, tail, text, start, _, free⟩ := isPlainName_iff.mp plain
  simp only [reservedWords, List.mem_cons, List.not_mem_nil, or_false, not_or] at free
  obtain ⟨_, _, notNot, _, _, notTrue, notFalse, notNull⟩ := free
  rw [text] at all ⊢
  rw [readTerm_word read start (List.all_eq_true.mpr all) stop, ← text, String.ofList_toList]
  simp only [readNamedAs, notNot, notTrue, notFalse, notNull, if_false]

theorem readTerm_field {name : String} (plain : isPlainName name) (closed : Closed rest) :
    readTerm read (name.toList ++ rest) = some (.leaf (.field name), rest) := by
  rw [readTerm_name read plain fun c mem => (closed.stop c mem).1]
  unfold readCallOrField
  split
  · exact absurd rfl (closed.stop '(' rfl).2.2
  · rfl

theorem readTerm_denied {name : String} (plain : isPlainName name) (closed : Closed rest) :
    readTerm read ('!' :: name.toList ++ rest) = some (.denied name, rest) := by
  have all := all_isNameChar plain
  have stop := fun c mem => (closed.stop c mem).1
  simp [readTerm, Text.takeWhile_append_of_stop all stop, Text.dropWhile_append_of_stop all stop]

theorem readTerm_string (s : String) :
    readTerm read (Literal.stringText s.toList ++ rest) = some (.leaf (.string s), rest) := by
  simp [Literal.stringText_eq, readTerm, readQuoted_escape]

theorem readTerm_pattern {source : String} (open_ : '/' ∉ source.toList) :
    readTerm read ('/' :: source.toList ++ '/' :: rest) = some (.leaf (.pattern source), rest) := by
  have all : ∀ c ∈ source.toList, c != '/' := fun c mem => by
    simp only [bne_iff_ne, ne_eq]
    exact fun same => open_ (same ▸ mem)
  have stop : ∀ c ∈ ('/' :: rest).head?, (c != '/') = false := by simp
  simp [readTerm, readPattern, Text.takeWhile_append_of_stop all stop,
    Text.dropWhile_append_of_stop all stop, expect]

theorem readInt_digits (negative : Bool) (n : Nat) (stop : ∀ c ∈ rest.head?, c.isDigit = false) :
    readInt negative (Nat.toDigits 10 n ++ rest) =
      some (.leaf (.int (if negative then -n else n)), rest) := by
  have all : ∀ c ∈ Nat.toDigits 10 n, c.isDigit := fun c => Text.isDigit_of_mem_toDigits
  simp [readInt, Text.takeWhile_append_of_stop all stop, Text.dropWhile_append_of_stop all stop,
    Nat.ofDigitChars_ten_toDigits]

theorem readTerm_int (i : Int) (stop : ∀ c ∈ rest.head?, c.isDigit = false) :
    readTerm read (Number.intText i ++ rest) = some (.leaf (.int i), rest) := by
  unfold Number.intText
  split
  case isTrue negative =>
    have back : -(i.natAbs : Int) = i := by omega
    rw [List.cons_append, readTerm, readInt_digits true i.natAbs stop, if_pos rfl, back]
  case isFalse natural =>
    have back : (i.natAbs : Int) = i := by omega
    have readDigits := readInt_digits false i.natAbs stop
    obtain ⟨c, tail, digits, digit⟩ := Text.toDigits_eq_cons i.natAbs
    rw [digits, List.cons_append] at readDigits ⊢
    rw [readTerm_digit read digit, readDigits]
    simp [back]

theorem readTerm_literal {kind : LiteralKind} {value : Datum} (plain : PlainLiteral kind value)
    (closed : Closed rest) :
    readTerm read (Literal.text kind value ++ rest) = some (.leaf (.literal kind value), rest) := by
  cases plain with
  | string s => exact readTerm_string read s
  | int i fits =>
    have node : Node.int i = .literal .int (.num (.int i fits)) := by
      simp [Node.int, Datum.ofInt, Number.ofInt?, fits]
    rw [← node]
    exact readTerm_int read i fun c mem => (closed.stop c mem).2.1
  | bool b =>
    have stop := fun c mem => (closed.stop c mem).1
    cases b with
    | true => exact (readTerm_word read rfl rfl stop).trans rfl
    | false => exact (readTerm_word read rfl rfl stop).trans rfl
  | null => exact (readTerm_word read rfl rfl fun c mem => (closed.stop c mem).1).trans rfl
  | @pattern source plain =>
    rw [Literal.pattern_text plain, List.append_assoc]
    exact readTerm_pattern read plain

end Leaves

end Sentence

end Verdict
