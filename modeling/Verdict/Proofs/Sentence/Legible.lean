import Verdict.Proofs.Sentence.Basic

set_option autoImplicit false

namespace Verdict

def isNameStart (c : Char) : Bool := c.isAlpha || c == '_' || 0x80 ≤ c.toNat

def isNameChar (c : Char) : Bool := isNameStart c || c.isDigit || c == '.' || c == '-'

def reservedWords : List String :=
  ["and", "or", "not", "in", "contains", "true", "false", "null"]

def isPlainName (name : String) : Bool :=
  match name.toList with
  | [] => false
  | c :: rest => isNameStart c && rest.all isNameChar && !reservedWords.contains name

/-- The literals that can be told from their text: strings, integers, booleans, null, and patterns
without a slash. -/
inductive PlainLiteral : LiteralKind → Datum → Prop where
  | string (s : String) : PlainLiteral .string (.str s)
  | int (i : Int) (fits : -0x8000000000000000 ≤ i ∧ i < 0x10000000000000000) :
      PlainLiteral .int (.num (.int i fits))
  | bool (b : Bool) : PlainLiteral .bool (.bool b)
  | null : PlainLiteral .null .null
  | pattern {source : String} : '/' ∉ source.toList → PlainLiteral .pattern (.str source)

def Operator.isBinary : Operator → Bool
  | .not | .other _ => false
  | _ => true

def Operator.isComparison : Operator → Bool
  | .and | .or | .not | .other _ => false
  | _ => true

inductive Node.Readable : Node → Prop where
  | field {name : String} : isPlainName name → Readable (.field name)
  | literal {kind : LiteralKind} {value : Datum} :
      PlainLiteral kind value → Readable (.literal kind value)
  | array {elements : List Node} : (∀ n ∈ elements, Readable n) → Readable (.array elements)
  | call {name : String} {args : List Node} :
      isPlainName name → (∀ n ∈ args, Readable n) → Readable (.call name args)
  | binary {op : Operator} {left right : Node} :
      op.isBinary → Readable left → Readable right → Readable (.binary op left right)
  | not {operand : Node} : Readable operand → Readable (.not operand)

inductive Sentence.Legible : Sentence → Prop where
  | field {name : String} : isPlainName name → Legible (.leaf (.field name))
  | literal {kind : LiteralKind} {value : Datum} :
      PlainLiteral kind value → Legible (.leaf (.literal kind value))
  | denied {name : String} : isPlainName name → Legible (.denied name)
  | array {elements : List Sentence} : (∀ s ∈ elements, Legible s) → Legible (.array elements)
  | call {name : String} {args : List Sentence} :
      isPlainName name → (∀ s ∈ args, Legible s) → Legible (.call name args)
  | group {op : Operator} {left right : Sentence} :
      Phrase.isLogical op → Legible left → Legible right → Legible (.group op left right)
  | negation {operand : Sentence} : Legible operand → Legible (.negation operand)
  | chain {first rest : Sentence} {link : Link} :
      first.isTerm → Legible first → Legible rest → Legible (.chain first link rest)

namespace Sentence.Legible

theorem append {s t : Sentence} (hs : s.Legible) (link : Link) (ht : t.Legible) :
    (s.append link t).Legible := by
  induction hs with
  | chain term hfirst _ _ ih => exact .chain term hfirst ih
  | field plain => exact .chain rfl (.field plain) ht
  | literal plain => exact .chain rfl (.literal plain) ht
  | denied plain => exact .chain rfl (.denied plain) ht
  | array all _ => exact .chain rfl (.array all) ht
  | call plain all _ => exact .chain rfl (.call plain all) ht
  | group logical hl hr _ _ => exact .chain rfl (.group logical hl hr) ht
  | negation h _ => exact .chain rfl (.negation h) ht

end Sentence.Legible

namespace Outline

theorem ofBinary_cases {op : Operator} (binary : op.isBinary) :
    (∃ link, Link.ofOperator? op = some link ∧ Phrase.isLogical op = false) ∨
      (Link.ofOperator? op = none ∧ Link.denial? op = none ∧ Phrase.isLogical op) := by
  cases op <;> simp [Link.ofOperator?, Link.denial?, Phrase.isLogical, Operator.isBinary] at binary ⊢

theorem ofNode_binary {op : Operator} (binary : op.isBinary) (left right : Node) :
    ofNode (.binary op left right) = ofBinary op (ofNode left) (ofNode right) := by
  cases op <;> first | rfl | simp [Operator.isBinary] at binary

theorem ofNode_not (operand : Node) :
    ofNode (.not operand) = ofSentence (ofNode operand).denial := rfl

theorem ofBinary_text {op : Operator} (binary : op.isBinary) {left right : Phrase}
    {left' right' : Outline} (hl : left.part = left'.part.text) (hr : right.part = right'.part.text) :
    (Phrase.ofBinary op left right).part = (ofBinary op left' right').part.text ∧
      (Phrase.ofBinary op left right).denial = (ofBinary op left' right').denial.text := by
  rcases ofBinary_cases binary with ⟨link, found, logical⟩ | ⟨found, denial, logical⟩
  · have symbol := Link.symbol_of_ofOperator? found
    have part : (Phrase.ofBinary op left right).part = (ofBinary op left' right').part.text := by
      simp [Phrase.ofBinary, ofBinary, found, logical, hl, hr, Sentence.text_append, symbol]
    refine ⟨part, ?_⟩
    simp only [ofBinary, found] at part ⊢
    simp only [Phrase.ofBinary, Link.negatedSymbol?_eq] at part ⊢
    cases denial : Link.denial? op with
    | none => simp only [Option.map_none, part, Sentence.text]
    | some link => simp only [Option.map_some, hl, hr, Sentence.text_append]
  · simp [Phrase.ofBinary, ofBinary, found, logical, hl, hr, Link.negatedSymbol?_eq, denial,
      ofSentence, Sentence.text]

end Outline

theorem Phrase.ofList_eq_map (nodes : List Node) : ofList nodes = nodes.map ofNode := by
  induction nodes with
  | nil => rfl
  | cons head rest ih => rw [ofList, ih, List.map_cons]

namespace Node.Readable

theorem texts_parts {nodes : List Node}
    (h : ∀ n ∈ nodes, (Phrase.ofNode n).part = (Outline.ofNode n).part.text) :
    (Phrase.ofList nodes).map Phrase.part = Sentence.texts (Outline.parts nodes) := by
  rw [Phrase.ofList_eq_map, Sentence.texts_eq_map, Outline.parts_eq_map, List.map_map, List.map_map]
  exact List.map_congr_left h

theorem text_outline {n : Node} (h : n.Readable) :
    (Phrase.ofNode n).part = (Outline.ofNode n).part.text ∧
      (Phrase.ofNode n).denial = (Outline.ofNode n).denial.text := by
  induction h with
  | field _ => exact ⟨rfl, rfl⟩
  | literal _ => exact ⟨rfl, rfl⟩
  | array _ ih =>
    have texts := texts_parts fun n mem => (ih n mem).1
    simp [Phrase.ofNode, Outline.ofNode, Phrase.ofText, Outline.ofSentence, Sentence.text,
      Phrase.listText, texts]
  | call _ _ ih =>
    have texts := texts_parts fun n mem => (ih n mem).1
    simp [Phrase.ofNode, Outline.ofNode, Phrase.ofText, Outline.ofSentence, Sentence.text,
      Phrase.listText, texts]
  | @binary op left right binary _ _ hl hr =>
    rw [Outline.ofNode_binary binary]
    have phrase : Phrase.ofNode (.binary op left right) =
        Phrase.ofBinary op (Phrase.ofNode left) (Phrase.ofNode right) := by
      cases op <;> first | rfl | simp [Operator.isBinary] at binary
    rw [phrase]
    exact Outline.ofBinary_text binary hl.1 hr.1
  | @not operand _ ih =>
    have phrase : Phrase.ofNode (.not operand) = Phrase.ofText (Phrase.ofNode operand).denial := rfl
    rw [Outline.ofNode_not, phrase]
    simp [Phrase.ofText, Outline.ofSentence, Sentence.text, ih.2]

theorem parts_legible {nodes : List Node} (h : ∀ n ∈ nodes, (Outline.ofNode n).part.Legible) :
    ∀ s ∈ Outline.parts nodes, s.Legible := by
  rw [Outline.parts_eq_map]
  exact List.forall_mem_map.mpr h

theorem outline_legible {n : Node} (h : n.Readable) :
    (Outline.ofNode n).part.Legible ∧ (Outline.ofNode n).denial.Legible := by
  induction h with
  | field plain => exact ⟨.field plain, .denied plain⟩
  | literal plain => exact ⟨.literal plain, .negation (.literal plain)⟩
  | array _ ih =>
    have all := parts_legible fun n mem => (ih n mem).1
    exact ⟨.array all, .negation (.array all)⟩
  | call plain _ ih =>
    have all := parts_legible fun n mem => (ih n mem).1
    exact ⟨.call plain all, .negation (.call plain all)⟩
  | @binary op left right binary _ _ hl hr =>
    rw [Outline.ofNode_binary binary]
    unfold Outline.ofBinary
    rcases Outline.ofBinary_cases binary with ⟨link, found, _⟩ | ⟨found, _, logical⟩
    · rw [found]
      refine ⟨hl.1.append link hr.1, ?_⟩
      dsimp only
      split
      · exact hl.1.append _ hr.1
      · exact .negation (hl.1.append link hr.1)
    · rw [found]
      exact ⟨.group logical hl.1 hr.1, .negation (.group logical hl.1 hr.1)⟩
  | not _ ih => exact ⟨ih.2, .negation ih.2⟩

end Node.Readable

end Verdict
