import Verdict.Proofs.Rule.Tree
import Verdict.Rule.Render

/-!
Sentences: what rule text says. A sentence keeps all that is written, and only that. Comparisons stand
without parentheses, so a sentence holds them in a chain and does not know how they were grouped.
-/

set_option autoImplicit false

namespace Verdict

inductive Link where
  | eq | ne | gt | ge | lt | le
  | contains | matching | isIn
  | notContains | notMatching | notIn
deriving DecidableEq

namespace Link

def symbol : Link → String
  | .eq => "=="
  | .ne => "!="
  | .gt => ">"
  | .ge => ">="
  | .lt => "<"
  | .le => "<="
  | .contains => "contains"
  | .matching => "=~"
  | .isIn => "in"
  | .notContains => "not contains"
  | .notMatching => "not =~"
  | .notIn => "not in"

def ofOperator? : Operator → Option Link
  | .eq => some .eq
  | .ne => some .ne
  | .gt => some .gt
  | .ge => some .ge
  | .lt => some .lt
  | .le => some .le
  | .contains => some .contains
  | .matching => some .matching
  | .isIn => some .isIn
  | .and | .or | .not | .other _ => none

def denial? : Operator → Option Link
  | .eq => some .ne
  | .contains => some .notContains
  | .matching => some .notMatching
  | .isIn => some .notIn
  | _ => none

def join (left : Node) : Link → Node → Node
  | .eq, right => .binary .eq left right
  | .ne, right => .binary .ne left right
  | .gt, right => .binary .gt left right
  | .ge, right => .binary .ge left right
  | .lt, right => .binary .lt left right
  | .le, right => .binary .le left right
  | .contains, right => .binary .contains left right
  | .matching, right => .binary .matching left right
  | .isIn, right => .binary .isIn left right
  | .notContains, right => .not (.binary .contains left right)
  | .notMatching, right => .not (.binary .matching left right)
  | .notIn, right => .not (.binary .isIn left right)

theorem symbol_of_ofOperator? {op : Operator} {link : Link} (h : ofOperator? op = some link) :
    link.symbol = op.symbol := by
  cases op <;> cases h <;> rfl

theorem negatedSymbol?_eq (op : Operator) :
    Phrase.negatedSymbol? op = (denial? op).map symbol := by
  cases op <;> rfl

end Link

inductive Sentence where
  | leaf (node : Node)
  | denied (field : String)
  | array (elements : List Sentence)
  | call (name : String) (args : List Sentence)
  | group (op : Operator) (left right : Sentence)
  | negation (operand : Sentence)
  -- the first part of a chain is no chain itself
  | chain (first : Sentence) (link : Link) (rest : Sentence)

namespace Sentence

def isTerm : Sentence → Bool
  | .chain .. => false
  | .leaf _ | .denied _ | .array _ | .call .. | .group .. | .negation _ => true

mutual

def text : Sentence → List Char
  | .leaf node => (Phrase.ofNode node).part
  | .denied field => '!' :: field.toList
  | .array elements => '[' :: Text.joinWith ", ".toList (texts elements) ++ [']']
  | .call name args => name.toList ++ '(' :: Text.joinWith ", ".toList (texts args) ++ [')']
  | .group op left right => Phrase.parenthesize (Phrase.infixText left.text op.symbol right.text)
  | .negation operand => Phrase.deny operand.text
  | .chain first link rest => Phrase.infixText first.text link.symbol rest.text

def texts : List Sentence → List (List Char)
  | [] => []
  | s :: rest => s.text :: texts rest

end

theorem texts_eq_map (ss : List Sentence) : texts ss = ss.map text := by
  induction ss with
  | nil => rfl
  | cons s rest ih => rw [texts, ih, List.map_cons]

def rootText : Sentence → List Char
  | .group op left right => Phrase.infixText left.text op.symbol right.text
  | s => s.text

def append : Sentence → Link → Sentence → Sentence
  | .chain first inner rest, link, s => .chain first inner (rest.append link s)
  | first, link, s => .chain first link s

theorem text_append (s : Sentence) (link : Link) (t : Sentence) :
    (s.append link t).text = Phrase.infixText s.text link.symbol t.text := by
  fun_induction append s link t with
  | case1 first inner rest link t ih =>
    simp only [text, ih, Phrase.infixText, List.append_assoc, List.cons_append]
  | case2 first link t _ => rfl

@[simp] theorem isTerm_append (s : Sentence) (link : Link) (t : Sentence) :
    (s.append link t).isTerm = false := by
  cases s <;> rfl

end Sentence

/-- The sentences of a node: as a part of a rule, and below a `not`. -/
structure Outline where
  part : Sentence
  denial : Sentence

namespace Outline

def ofSentence (s : Sentence) : Outline := ⟨s, .negation s⟩

def ofField (name : String) : Outline := ⟨.leaf (.field name), .denied name⟩

def ofBinary (op : Operator) (left right : Outline) : Outline :=
  match Link.ofOperator? op with
  | none => ofSentence (.group op left.part right.part)
  | some link =>
      let part := left.part.append link right.part
      { part
        denial := match Link.denial? op with
          | some link => left.part.append link right.part
          | none => .negation part }

def ofNegation : Option Outline → Outline
  | none => ofSentence (.leaf (.operator .not none none))
  | some operand => ofSentence operand.denial

def ofOperator (op : Operator) (left right : Option Outline) : Outline :=
  match op, left, right with
  | .not, _, right => ofNegation right
  | op, some left, some right => ofBinary op left right
  | op, _, _ => ofSentence (.leaf (.operator op none none))

mutual

def ofNode : Node → Outline
  | .operator op left right => ofOperator op (ofOption left) (ofOption right)
  | .field name => ofField name
  | .literal kind value => ofSentence (.leaf (.literal kind value))
  | .array elements => ofSentence (.array (parts elements))
  | .call name args => ofSentence (.call name (parts args))
  | .unknown => ofSentence (.leaf .unknown)

def ofOption : Option Node → Option Outline
  | none => none
  | some n => some (ofNode n)

def parts : List Node → List Sentence
  | [] => []
  | n :: rest => (ofNode n).part :: parts rest

end

end Outline

def Node.sentence (n : Node) : Sentence := (Outline.ofNode n).part

theorem Outline.parts_eq_map (nodes : List Node) : parts nodes = nodes.map Node.sentence := by
  induction nodes with
  | nil => rfl
  | cons head rest ih => rw [parts, ih, List.map_cons, Node.sentence]

end Verdict
