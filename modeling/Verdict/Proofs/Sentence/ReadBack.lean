import Verdict.Proofs.Sentence.Leaves

set_option autoImplicit false

namespace Verdict

namespace Sentence

def Opens (text : List Char) : Prop := ∃ c rest, text = c :: rest ∧ c ∉ [')', ']']

theorem Opens.append {text : List Char} (opens : Opens text) (more : List Char) :
    Opens (text ++ more) := by
  obtain ⟨c, rest, rfl, free⟩ := opens
  exact ⟨c, rest ++ more, rfl, free⟩

theorem Opens.name {name : String} (plain : isPlainName name) : Opens name.toList := by
  obtain ⟨c, tail, eq, start, _, _⟩ := isPlainName_iff.mp plain
  refine ⟨c, tail, eq, fun mem => ?_⟩
  simp only [List.mem_cons, List.not_mem_nil, or_false] at mem
  rcases mem with rfl | rfl <;> exact absurd start (by decide)

theorem Opens.literal {kind : LiteralKind} {value : Datum} (plain : PlainLiteral kind value) :
    Opens (Literal.text kind value) := by
  cases plain with
  | string s => exact ⟨'"', _, rfl, by decide⟩
  | int i fits =>
    change Opens (Number.intText i)
    unfold Number.intText
    split
    · exact ⟨'-', _, rfl, by decide⟩
    · obtain ⟨c, tail, digits, digit⟩ := Text.toDigits_eq_cons i.natAbs
      refine ⟨c, tail, digits, fun mem => ?_⟩
      simp only [List.mem_cons, List.not_mem_nil, or_false] at mem
      rcases mem with rfl | rfl <;> exact absurd digit (by decide)
  | bool b => cases b <;> exact ⟨_, _, rfl, by decide⟩
  | null => exact ⟨_, _, rfl, by decide⟩
  | pattern plain =>
    rw [Literal.pattern_text plain]
    exact ⟨_, _, rfl, by decide⟩

theorem Legible.opens {s : Sentence} (h : s.Legible) : Opens s.text := by
  induction h with
  | field plain => exact .name plain
  | literal plain => exact .literal plain
  | denied _ => exact ⟨'!', _, rfl, by decide⟩
  | array _ _ => exact ⟨'[', _, rfl, by decide⟩
  | call plain _ _ =>
    simp only [text]
    exact ((Opens.name plain).append _).append _
  | group _ _ _ _ _ => exact ⟨'(', _, rfl, by decide⟩
  | negation _ _ => exact ⟨'n', _, rfl, by decide⟩
  | chain _ _ _ ih _ =>
    simp only [text, Phrase.infixText]
    exact (ih.append _).append _

/-- A term is found where something closes it. -/
def TermFound (s : Sentence) : Prop :=
  ∀ fuel rest, s.text.length ≤ fuel → Closed rest →
    readTerm (readSentence fuel) (s.text ++ rest) = some (s, rest)

def Found (s : Sentence) : Prop :=
  ∀ fuel rest, s.text.length < fuel → Ends rest →
    readSentence fuel (s.text ++ rest) = some (s, rest)

theorem TermFound.found {s : Sentence} (h : TermFound s) : Found s := by
  intro fuel rest short ends
  cases fuel with
  | zero => omega
  | succ fuel =>
    rw [readSentence, h fuel rest (Nat.le_of_lt_succ short) ends.closed]
    simp only [ends.unlinked]

section Lists

variable {close : Char} {ss : List Sentence} (fuel : Nat)

theorem readItems_texts (ends : ∀ rest, Ends (close :: rest)) (notComma : close ≠ ',')
    (nonempty : ss ≠ []) (found : ∀ s ∈ ss, Found s) (short : ∀ s ∈ ss, s.text.length < fuel)
    {items : Nat} (enough : ss.length ≤ items) (rest : List Char) :
    readItems (readSentence fuel) close items
      (Text.joinWith ", ".toList (texts ss) ++ close :: rest) = some (ss, rest) := by
  induction ss generalizing items with
  | nil => exact absurd rfl nonempty
  | cons s more ih =>
    obtain ⟨items, rfl⟩ : ∃ n, items = n + 1 := ⟨items - 1, by simp at enough; omega⟩
    have head := found s List.mem_cons_self fuel
    have head' := short s List.mem_cons_self
    cases more with
    | nil =>
      simp only [texts, Text.joinWith, readItems, head _ head' (ends rest)]
      split
      case h_1 same => cases same
      case h_2 same =>
        cases same
        exact absurd rfl notComma
      case h_3 same =>
        cases same
        simp [expect]
    | cons t more =>
      have tail := ih (by simp) (fun s mem => found s (List.mem_cons_of_mem _ mem))
        (fun s mem => short s (List.mem_cons_of_mem _ mem)) (Nat.le_of_succ_le_succ enough)
      have text : Text.joinWith ", ".toList (texts (s :: t :: more)) ++ close :: rest =
          s.text ++
            ',' :: ' ' :: (Text.joinWith ", ".toList (texts (t :: more)) ++ close :: rest) := by
        simp [texts, Text.joinWith]
      rw [text, readItems, head _ head' (.comma _)]
      simp only [tail, Option.map_some]

theorem readList_texts (ends : ∀ rest, Ends (close :: rest)) (bracket : close ∈ [')', ']'])
    (legible : ∀ s ∈ ss, s.Legible) (found : ∀ s ∈ ss, Found s)
    (short : (Text.joinWith ", ".toList (texts ss)).length < fuel) (rest : List Char) :
    readList (readSentence fuel) close
      (Text.joinWith ", ".toList (texts ss) ++ close :: rest) = some (ss, rest) := by
  cases ss with
  | nil => simp [texts, Text.joinWith, readList]
  | cons s more =>
    have notComma : close ≠ ',' := by
      rintro rfl
      exact absurd bracket (by decide)
    have short : ∀ t ∈ s :: more, t.text.length < fuel := fun t mem => by
      have mem : t.text ∈ texts (s :: more) := texts_eq_map _ ▸ List.mem_map.mpr ⟨t, mem, rfl⟩
      exact Nat.lt_of_le_of_lt (Text.length_le_joinWith mem) short
    have items : (s :: more).length ≤
        (Text.joinWith ", ".toList (texts (s :: more)) ++ close :: rest).length := by
      have pieces : (texts (s :: more)).length ≤
          (Text.joinWith ", ".toList (texts (s :: more))).length + 1 :=
        Text.length_pieces_le_joinWith _ (by decide)
      rw [texts_eq_map, List.length_map, ← texts_eq_map] at pieces
      simp only [List.length_append, List.length_cons] at pieces ⊢
      omega
    have opens : Opens (Text.joinWith ", ".toList (texts (s :: more)) ++ close :: rest) := by
      refine .append ?_ _
      have head := (legible s List.mem_cons_self).opens
      cases more with
      | nil => exact head
      | cons t more =>
        simp only [texts, Text.joinWith]
        exact (head.append _).append _
    have read := readItems_texts fuel ends notComma (by simp) found short items rest
    obtain ⟨c, tail, text, free⟩ := opens
    have other : c ≠ close := by
      rintro rfl
      exact free bracket
    rw [text] at read ⊢
    rw [readList, if_neg other]
    exact read

end Lists

section Terms

theorem termFound_array {elements : List Sentence} (legible : ∀ s ∈ elements, s.Legible)
    (found : ∀ s ∈ elements, Found s) : TermFound (.array elements) := by
  intro fuel rest short closed
  simp only [text, List.length_append, List.length_cons] at short
  have read := readList_texts fuel .bracket (by decide) legible found (by omega) rest
  simp only [text, List.append_assoc, List.cons_append, List.nil_append, readTerm, read,
    Option.map_some]

theorem termFound_call {name : String} {args : List Sentence} (plain : isPlainName name)
    (legible : ∀ s ∈ args, s.Legible) (found : ∀ s ∈ args, Found s) :
    TermFound (.call name args) := by
  intro fuel rest short closed
  simp only [text, List.length_append, List.length_cons] at short
  have read := readList_texts fuel .parenthesis (by decide) legible found (by omega) rest
  simp only [text, List.append_assoc, List.cons_append, List.nil_append]
  rw [readTerm_name _ plain (by simp; decide)]
  simp only [readCallOrField, read, Option.map_some]

theorem termFound_group {op : Operator} {left right : Sentence} (logical : Phrase.isLogical op)
    (hl : Found left) (hr : Found right) : TermFound (.group op left right) := by
  intro fuel rest short closed
  simp only [text, Phrase.parenthesize, Phrase.infixText, List.length_append,
    List.length_cons] at short
  have readLeft := hl fuel (' ' :: op.symbol.toList ++ ' ' :: (right.text ++ ')' :: rest))
    (by omega) (.logical logical _)
  have readRight := hr fuel (')' :: rest) (by omega) (.parenthesis _)
  have readOp := readLogical_symbol logical (right.text ++ ')' :: rest)
  simp only [List.cons_append] at readLeft readOp
  simp [text, Phrase.parenthesize, Phrase.infixText, readTerm, readGroup, readLeft, readOp,
    readRight, expect]

theorem termFound_negation {operand : Sentence} (h : Found operand) :
    TermFound (.negation operand) := by
  intro fuel rest short closed
  simp only [text, Phrase.deny, Phrase.parenthesize, List.length_append, List.length_cons] at short
  have read := h fuel (')' :: rest) (by omega) (.parenthesis _)
  have word (rest : List Char) : readTerm (readSentence fuel) ("not".toList ++ ' ' :: rest) =
      readNamedAs (readSentence fuel) "not" (' ' :: rest) :=
    readTerm_word _ rfl rfl (by simp; decide)
  have opened : [' ', '('].isPrefixOf? (' ' :: '(' :: (operand.text ++ ')' :: rest)) =
      some (operand.text ++ ')' :: rest) := rfl
  simp only [text, Phrase.deny, Phrase.parenthesize, List.append_assoc]
  refine (word _).trans ?_
  simp [readNamedAs, readNegation, opened, read, expect]

theorem found_chain {first rest : Sentence} {link : Link} (hf : TermFound first) (hr : Found rest) :
    Found (.chain first link rest) := by
  intro fuel after short ends
  simp only [text, Phrase.infixText, List.length_append, List.length_cons] at short
  obtain ⟨fuel, rfl⟩ : ∃ n, fuel = n + 1 := ⟨fuel - 1, by omega⟩
  have readFirst := hf fuel (' ' :: link.symbol.toList ++ ' ' :: (rest.text ++ after))
    (by omega) (.blank _)
  have readRest := hr fuel after (by omega) ends
  have readOp := readLink_symbol link (rest.text ++ after)
  simp only [text, Phrase.infixText, List.cons_append, List.append_assoc] at readFirst readOp ⊢
  rw [readSentence, readFirst]
  simp only [readOp, readRest, Option.map_some]

end Terms

theorem Legible.found {s : Sentence} (h : s.Legible) : (s.isTerm → TermFound s) ∧ Found s := by
  have ofTerm {s : Sentence} (h : TermFound s) : (s.isTerm → TermFound s) ∧ Found s :=
    ⟨fun _ => h, h.found⟩
  induction h with
  | field plain => exact ofTerm fun fuel rest _ closed => readTerm_field _ plain closed
  | literal plain => exact ofTerm fun fuel rest _ closed => readTerm_literal _ plain closed
  | denied plain => exact ofTerm fun fuel rest _ closed => readTerm_denied _ plain closed
  | array legible ih => exact ofTerm (termFound_array legible fun s mem => (ih s mem).2)
  | call plain legible ih => exact ofTerm (termFound_call plain legible fun s mem => (ih s mem).2)
  | group logical _ _ hl hr => exact ofTerm (termFound_group logical hl.2 hr.2)
  | negation _ ih => exact ofTerm (termFound_negation ih.2)
  | chain term _ _ hf hr => exact ⟨nofun, found_chain (hf.1 term) hr.2⟩

theorem Legible.ofPart?_text {s : Sentence} (h : s.Legible) : ofPart? s.text = some s := by
  have read := h.found.2 (s.text.length + 1) [] (Nat.lt_succ_self _) .nil
  rw [List.append_nil] at read
  simp [ofPart?, read]

theorem Legible.ofRoot?_rootText {s : Sentence} (h : s.Legible) : ofRoot? s.rootText = some s := by
  have whole (t : Sentence) (ht : t.Legible) : ofRoot? t.text = some t := by
    have read := ht.found.2 (t.text.length + 1) [] (Nat.lt_succ_self _) .nil
    rw [List.append_nil] at read
    simp [ofRoot?, read]
  cases h with
  | @group op left right logical hl hr =>
    have readLeft := hl.found.2 ((rootText (.group op left right)).length + 1)
      (' ' :: op.symbol.toList ++ ' ' :: right.text)
      (by simp only [rootText, Phrase.infixText, List.length_append, List.length_cons]; omega)
      (.logical logical _)
    have readOp := readLogical_symbol logical right.text
    simp only [rootText, Phrase.infixText, List.cons_append, List.append_assoc] at readLeft readOp ⊢
    rw [ofRoot?, readLeft]
    simp [readOp, hr.ofPart?_text]
  | field plain => exact whole _ (.field plain)
  | literal plain => exact whole _ (.literal plain)
  | denied plain => exact whole _ (.denied plain)
  | array all => exact whole _ (.array all)
  | call plain all => exact whole _ (.call plain all)
  | negation h => exact whole _ (.negation h)
  | chain term hf hr => exact whole _ (.chain term hf hr)

def textAs (s : Sentence) (isRoot : Bool) : List Char := if isRoot then s.rootText else s.text

theorem Legible.textAs_injective {s t : Sentence} (hs : s.Legible) (ht : t.Legible) {isRoot : Bool}
    (same : s.textAs isRoot = t.textAs isRoot) : s = t := by
  cases isRoot with
  | true =>
    have read := hs.ofRoot?_rootText
    rw [show s.rootText = t.rootText from same, ht.ofRoot?_rootText] at read
    exact (Option.some.inj read).symm
  | false =>
    have read := hs.ofPart?_text
    rw [show s.text = t.text from same, ht.ofPart?_text] at read
    exact (Option.some.inj read).symm

@[simp] theorem rootText_append (s : Sentence) (link : Link) (t : Sentence) :
    (s.append link t).rootText = (s.append link t).text := by
  cases s <;> rfl

end Sentence

namespace Outline

theorem rootText_denial (n : Node) : (ofNode n).denial.rootText = (ofNode n).denial.text := by
  have binary (op : Operator) (left right : Outline) :
      (ofBinary op left right).denial.rootText = (ofBinary op left right).denial.text := by
    unfold ofBinary
    split
    · rfl
    · dsimp only
      split
      · exact Sentence.rootText_append ..
      · rfl
  cases n with
  | operator op left right =>
    cases op <;> cases left <;> cases right <;> first | rfl | exact binary ..
  | field | literal | array | call | unknown => rfl

end Outline

namespace Node.Readable

theorem root_eq {n : Node} (h : n.Readable) : (Phrase.ofNode n).root = n.sentence.rootText := by
  cases h with
  | field | literal => rfl
  | array all => exact (text_outline (.array all)).1
  | call plain all => exact (text_outline (.call plain all)).1
  | not h => exact h.text_outline.2.trans (Outline.rootText_denial _).symm
  | @binary op left right binary hl hr =>
    have phrase : (Phrase.ofNode (.binary op left right)).root =
        Phrase.infixText (Phrase.ofNode left).part op.symbol (Phrase.ofNode right).part := by
      cases op <;> first | rfl | simp [Operator.isBinary] at binary
    rw [phrase, hl.text_outline.1, hr.text_outline.1, sentence, Outline.ofNode_binary binary]
    unfold Outline.ofBinary
    rcases Outline.ofBinary_cases binary with ⟨link, found, _⟩ | ⟨found, _, _⟩
    · rw [found, Sentence.rootText_append, Sentence.text_append, Link.symbol_of_ofOperator? found]
    · rw [found]
      rfl

theorem render_eq {n : Node} (h : n.Readable) (isRoot : Bool) :
    n.render isRoot = String.ofList (n.sentence.textAs isRoot) := by
  cases isRoot with
  | true => exact congrArg String.ofList h.root_eq
  | false => exact congrArg String.ofList h.text_outline.1

/-- Readable trees have one text exactly if they have one sentence. -/
theorem render_eq_iff {a b : Node} (ha : a.Readable) (hb : b.Readable) (isRoot : Bool) :
    a.render isRoot = b.render isRoot ↔ a.sentence = b.sentence := by
  rw [ha.render_eq, hb.render_eq, String.ofList_inj]
  refine ⟨fun same => ?_, fun same => same ▸ rfl⟩
  exact ha.outline_legible.1.textAs_injective hb.outline_legible.1 same

end Node.Readable

end Verdict
