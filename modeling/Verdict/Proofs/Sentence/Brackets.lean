import Verdict.Proofs.Datum.Brackets
import Verdict.Proofs.Sentence.Leaves
import Verdict.Proofs.Sentence.Legible

set_option autoImplicit false

namespace Verdict

open Text (Nested isBracket)

def Operator.Unbracketed (op : Operator) : Prop :=
  ∀ name, op = .other name → Text.Unbracketed name.toList

/-- No name and no string in the tree has a bracket. Operands may be missing. -/
inductive Node.Unbracketed : Node → Prop where
  | operator {op : Operator} {left right : Option Node} : op.Unbracketed →
      (∀ n ∈ left, Unbracketed n) → (∀ n ∈ right, Unbracketed n) →
      Unbracketed (.operator op left right)
  | field {name : String} : Text.Unbracketed name.toList → Unbracketed (.field name)
  | literal {kind : LiteralKind} {value : Datum} :
      value.Unbracketed → Unbracketed (.literal kind value)
  | array {elements : List Node} : (∀ n ∈ elements, Unbracketed n) → Unbracketed (.array elements)
  | call {name : String} {args : List Node} :
      Text.Unbracketed name.toList → (∀ n ∈ args, Unbracketed n) → Unbracketed (.call name args)
  | unknown : Unbracketed .unknown

def Node.isJunction : Node → Bool
  | .operator op (some _) (some _) => Phrase.isLogical op
  | _ => false

namespace Literal

theorem awaitAll_escape (awaited text : List Char) :
    Text.awaitAll awaited (text.flatMap escape) = Text.awaitAll awaited text := by
  induction text generalizing awaited with
  | nil => rfl
  | cons c text ih =>
    have here : Text.awaitAll awaited (escape c) = Text.await awaited c := by
      have backslash : Text.await awaited '\\' = some awaited := Text.await_plain rfl
      rcases escape_eq c with taken | alone
      · simp [taken, Text.awaitAll, backslash]
      · simp [alone, Text.awaitAll]
    rw [List.flatMap_cons, Text.awaitAll_append, here, Text.awaitAll_cons]
    exact congrArg _ (funext ih)

theorem nested_stringText {text : List Char} (h : Nested text) : Nested (stringText text) := by
  have quote : Nested ['"'] := rfl
  have inside : Nested (text.flatMap escape) := (awaitAll_escape [] text).trans h
  rw [stringText_eq]
  exact (quote.append inside).append quote

theorem unbracketed_hexPair (n : Nat) : Text.Unbracketed (hexPair n) := by
  have digits : Text.Unbracketed (Nat.toDigits 16 n) := by
    intro c mem
    obtain ⟨d, small, rfl⟩ := Text.exists_digitChar_of_mem_toDigits (by decide) mem
    have all : ∀ d < 16, isBracket d.digitChar = false := by decide
    exact all d small
  unfold hexPair
  split
  · exact List.forall_mem_cons.mpr ⟨rfl, digits⟩
  · exact digits

theorem nested_byteText {d : Datum} (h : d.Unbracketed) : Nested (byteText d) := by
  unfold byteText
  split
  · next i fits =>
    split
    · exact (unbracketed_hexPair _).nested
    · exact (Number.unbracketed_display (.int i fits)).nested
  · exact h.nested_display

theorem nested_bytesText {d : Datum} (h : d.Unbracketed) : Nested (bytesText d) := by
  unfold bytesText
  split
  · cases h with
    | arr all =>
      have bytes := List.forall_mem_map.mpr fun d mem => nested_byteText (all d mem)
      exact .joinWith (by decide) bytes
  · exact h.nested_display

theorem nested_numberText {d : Datum} (h : d.Unbracketed) : Nested (numberText d) := by
  unfold numberText
  split
  · next n => exact n.unbracketed_write.nested
  · exact h.nested_display

theorem nested_patternText {d : Datum} (h : d.Unbracketed) : Nested (patternText d) := by
  have slash : Nested ['/'] := rfl
  unfold patternText
  split
  · next source =>
    have plain := h.nested_display
    unfold Datum.display at plain
    split
    · next same => exact same ▸ plain
    · exact (slash.append plain).append slash
  · exact h.nested_display

theorem nested_text (kind : LiteralKind) {value : Datum} (h : value.Unbracketed) :
    Nested (text kind value) := by
  unfold text
  split
  · rfl
  · cases kind with
    | string => exact nested_stringText h.nested_display
    | bool | int | float => exact nested_numberText h
    | bytes | mac => exact nested_bytesText h
    | pattern => exact nested_patternText h
    | ip | cidr | null | other => exact h.nested_display

theorem unbracketed_of_byteText {d : Datum} (plain : Text.Unbracketed (byteText d)) :
    d.Unbracketed := by
  unfold byteText at plain
  split at plain
  · exact .num _
  · exact Datum.unbracketed_of_display plain

theorem unbracketed_of_bytesText {d : Datum} (plain : Text.Unbracketed (bytesText d)) :
    d.Unbracketed := by
  unfold bytesText at plain
  split at plain
  · refine .arr fun d mem => ?_
    exact unbracketed_of_byteText (plain.of_joinWith (List.mem_map_of_mem mem))
  · exact Datum.unbracketed_of_display plain

theorem unbracketed_of_numberText {d : Datum} (plain : Text.Unbracketed (numberText d)) :
    d.Unbracketed := by
  unfold numberText at plain
  split at plain
  · exact .num _
  · exact Datum.unbracketed_of_display plain

theorem unbracketed_of_patternText {d : Datum} (plain : Text.Unbracketed (patternText d)) :
    d.Unbracketed := by
  unfold patternText at plain
  split at plain
  · split at plain
    · next same => exact .str (same ▸ plain)
    · exact .str fun c mem => plain c (by simp [mem])
  · exact Datum.unbracketed_of_display plain

theorem unbracketed_of_stringText {text : List Char} (plain : Text.Unbracketed (stringText text)) :
    Text.Unbracketed text := by
  intro c mem
  have escaped : c ∈ escape c := by
    rcases escape_eq c with taken | alone
    · simp [taken]
    · simp [alone]
  rw [stringText_eq] at plain
  exact plain c (by simpa using .inr (.inl ⟨c, mem, escaped⟩))

theorem unbracketed_of_text {kind : LiteralKind} {value : Datum}
    (plain : Text.Unbracketed (text kind value)) : value.Unbracketed := by
  unfold text at plain
  split at plain
  · exact .null
  · cases kind with
    | string => exact Datum.unbracketed_of_display (unbracketed_of_stringText plain)
    | bool | int | float => exact unbracketed_of_numberText plain
    | bytes | mac => exact unbracketed_of_bytesText plain
    | pattern => exact unbracketed_of_patternText plain
    | ip | cidr | null | other => exact Datum.unbracketed_of_display plain

end Literal

namespace Phrase

structure Nested (p : Phrase) : Prop where
  root : Text.Nested p.root
  part : Text.Nested p.part
  denial : Text.Nested p.denial

section Nested

variable {text : List Char} {left right : Phrase}

theorem nested_parenthesize (h : Text.Nested text) : Text.Nested (parenthesize text) := h.enclose rfl

theorem nested_deny (h : Text.Nested text) : Text.Nested (deny text) :=
  Text.Nested.append rfl (nested_parenthesize h)

theorem nested_ofText (h : Text.Nested text) : (ofText text).Nested := ⟨h, h, nested_deny h⟩

theorem nested_ofField {name : List Char} (h : Text.Nested name) : (ofField name).Nested := by
  have mark : Text.Nested ['!'] := rfl
  exact ⟨h, h, mark.append h⟩

theorem nested_infixText {symbol : String} (hl : Text.Nested left.part)
    (hs : Text.Nested symbol.toList) (hr : Text.Nested right.part) :
    Text.Nested (infixText left.part symbol right.part) := by
  have blank : Text.Nested [' '] := rfl
  have whole := (((hl.append blank).append hs).append blank).append hr
  simpa [infixText] using whole

theorem nested_name {op : Operator} (h : op.Unbracketed) : Text.Nested op.name.toList := by
  cases op with
  | other name => exact (h name rfl).nested
  | _ => rfl

theorem nested_symbol {op : Operator} (h : op.Unbracketed) : Text.Nested op.symbol.toList := by
  cases op with
  | other name => exact (h name rfl).nested
  | _ => rfl

theorem nested_negatedSymbol? {op : Operator} {symbol : String} (h : negatedSymbol? op = some symbol) :
    Text.Nested symbol.toList := by
  cases op <;> cases h <;> rfl

theorem nested_ofBinary {op : Operator} (hop : op.Unbracketed) (hl : left.Nested) (hr : right.Nested) :
    (ofBinary op left right).Nested := by
  have root : Text.Nested (ofBinary op left right).root :=
    nested_infixText hl.part (nested_symbol hop) hr.part
  have part : Text.Nested (ofBinary op left right).part := by
    unfold ofBinary
    dsimp only
    split
    · exact nested_parenthesize root
    · exact root
  refine ⟨root, part, ?_⟩
  unfold ofBinary at part ⊢
  dsimp only at part ⊢
  split
  · next symbol negated => exact nested_infixText hl.part (nested_negatedSymbol? negated) hr.part
  · exact nested_deny part

theorem nested_ofNegation {right : Option Phrase} (hr : ∀ p ∈ right, p.Nested) :
    (ofNegation right).Nested := by
  cases right with
  | none => exact nested_ofText rfl
  | some operand => exact nested_ofText (hr operand rfl).denial

theorem nested_ofOperator {op : Operator} (hop : op.Unbracketed) {left right : Option Phrase}
    (hl : ∀ p ∈ left, p.Nested) (hr : ∀ p ∈ right, p.Nested) : (ofOperator op left right).Nested := by
  have front : Text.Nested "<invalid ".toList := rfl
  have invalid : Text.Nested ("<invalid ".toList ++ op.name.toList ++ ['>']) :=
    (front.append (nested_name hop)).append rfl
  unfold ofOperator
  split
  · exact nested_ofNegation hr
  · next left right _ => exact nested_ofBinary hop (hl left rfl) (hr right rfl)
  · exact nested_ofText invalid

theorem nested_listText {elements : List Phrase} (all : ∀ p ∈ elements, p.Nested) :
    Text.Nested (listText elements) :=
  .joinWith rfl (List.forall_mem_map.mpr fun p mem => (all p mem).part)

end Nested

end Phrase

namespace Node.Unbracketed

theorem nested_ofOption {operand : Option Node} (all : ∀ n ∈ operand, (Phrase.ofNode n).Nested) :
    ∀ p ∈ Phrase.ofOption operand, p.Nested := by
  cases operand with
  | none => simp [Phrase.ofOption]
  | some n => simpa [Phrase.ofOption] using all

theorem nested_ofList {nodes : List Node} (all : ∀ n ∈ nodes, (Phrase.ofNode n).Nested) :
    ∀ p ∈ Phrase.ofList nodes, p.Nested := by
  rw [Phrase.ofList_eq_map]
  exact List.forall_mem_map.mpr all

theorem binary {op : Operator} {left right : Node} (hop : op.Unbracketed) (hl : left.Unbracketed)
    (hr : right.Unbracketed) : (Node.binary op left right).Unbracketed :=
  .operator hop (by simp [hl]) (by simp [hr])

theorem literal_of_text {kind : LiteralKind} {value : Datum}
    (plain : Text.Unbracketed (Literal.text kind value)) : (Node.literal kind value).Unbracketed :=
  .literal (Literal.unbracketed_of_text plain)

theorem nested_ofNode {n : Node} (h : n.Unbracketed) : (Phrase.ofNode n).Nested := by
  induction h with
  | operator hop _ _ hl hr => exact Phrase.nested_ofOperator hop (nested_ofOption hl) (nested_ofOption hr)
  | field plain => exact Phrase.nested_ofField plain.nested
  | literal plain => exact Phrase.nested_ofText (Literal.nested_text _ plain)
  | array _ ih => exact Phrase.nested_ofText (.enclose rfl (Phrase.nested_listText (nested_ofList ih)))
  | call plain _ ih =>
    have args := Phrase.nested_parenthesize (Phrase.nested_listText (nested_ofList ih))
    exact Phrase.nested_ofText (by simpa [Phrase.parenthesize] using plain.nested.append args)
  | unknown => exact Phrase.nested_ofText rfl

end Node.Unbracketed

namespace Node

variable {n : Node}

theorem render_of_isJunction (junction : n.isJunction) :
    n.render false = "(" ++ n.render true ++ ")" := by
  have pair : (Phrase.ofNode n).part = Phrase.parenthesize (Phrase.ofNode n).root := by
    unfold isJunction at junction
    split at junction
    · next op left right => cases op <;> first | rfl | simp [Phrase.isLogical] at junction
    · cases junction
  apply String.toList_inj.mp
  simp [render, pair, Phrase.parenthesize]

theorem render_of_not_isJunction (plain : n.isJunction = false) : n.render true = n.render false := by
  have same : (Phrase.ofNode n).root = (Phrase.ofNode n).part := by
    cases n with
    | operator op left right =>
      cases op <;> cases left <;> cases right <;>
        first | rfl | simp [isJunction, Phrase.isLogical] at plain
    | field | literal | array | call | unknown => rfl
  simp [render, same]

/-- Only a conjunction or disjunction loses parentheses as the whole rule, and these are a pair. -/
theorem Unbracketed.nested_render (h : n.Unbracketed) :
    Nested (n.render true).toList ∧ Nested (n.render false).toList ∧
      (n.isJunction → n.render false = "(" ++ n.render true ++ ")" ∧
        Text.enclosed? (n.render false).toList = some ((n.render true).toList, [])) ∧
      (n.isJunction = false → n.render true = n.render false) := by
  have phrase := h.nested_ofNode
  have root : Nested (n.render true).toList := by simpa [render] using phrase.root
  have part : Nested (n.render false).toList := by simpa [render] using phrase.part
  refine ⟨root, part, fun junction => ?_, render_of_not_isJunction⟩
  have pair := render_of_isJunction junction
  refine ⟨pair, Text.enclosed?_eq_some_iff.mpr ⟨'(', ')', rfl, ?_, root⟩⟩
  simp [pair]

theorem Unbracketed.nested_render_denial :
    let either : Node := .or (.field "a") (.field "b")
    let malformed : Node :=
      .operator (.other "xor") none (some (.array [.string "\"", .call "f" [.field "a"]]))
    let junction : Node := .and (.not either) malformed
    let comparison : Node := .eq either (.or (.field "c") (.field "d"))
    (junction.Unbracketed ∧ junction.isJunction ∧ Nested (junction.render true).toList ∧
        junction.render true = "not ((a or b)) and <invalid xor>" ∧
        junction.render false = "(" ++ junction.render true ++ ")" ∧
        Text.enclosed? (junction.render false).toList = some ((junction.render true).toList, [])) ∧
      comparison.Unbracketed ∧ comparison.isJunction = false ∧
        Nested (comparison.render true).toList ∧ comparison.render true = "(a or b) == (c or d)" ∧
        comparison.render true = comparison.render false ∧
        Text.enclosed? "(a or b) == (c or d)".toList = some ("a or b".toList, " == (c or d)".toList) := by
  intro either malformed junction comparison
  have a : (Node.field "a").Unbracketed := .field (by decide)
  have heither : either.Unbracketed := .binary nofun a (.field (by decide))
  have hmalformed : malformed.Unbracketed := by
    have quote : (Node.string "\"").Unbracketed := .literal_of_text (by decide)
    have call : (Node.call "f" [.field "a"]).Unbracketed := .call (by decide) (by simp [a])
    have elements : (Node.array [.string "\"", .call "f" [.field "a"]]).Unbracketed :=
      .array (by simp [quote, call])
    refine .operator (fun name same => ?_) (by simp) (by simp [elements])
    cases same
    decide
  have hjunction : junction.Unbracketed :=
    .binary nofun (.operator nofun (by simp) (by simp [heither])) hmalformed
  have hcomparison : comparison.Unbracketed :=
    .binary nofun heither (.binary nofun (.field (by decide)) (.field (by decide)))
  obtain ⟨whole, -, pair, -⟩ := hjunction.nested_render
  obtain ⟨root, -, -, same⟩ := hcomparison.nested_render
  exact ⟨⟨hjunction, rfl, whole, rfl, pair rfl⟩, hcomparison, rfl, root, rfl, same rfl, rfl⟩

end Node

end Verdict
