import Verdict.Rule.Literal

set_option autoImplicit false

namespace Verdict

/-- The texts of a node: as the whole rule, as a part of one, and below a `not`. -/
structure Phrase where
  root : List Char
  part : List Char
  denial : List Char

namespace Phrase

def parenthesize (text : List Char) : List Char := '(' :: text ++ [')']

def deny (text : List Char) : List Char := "not ".toList ++ parenthesize text

def ofText (text : List Char) : Phrase := ⟨text, text, deny text⟩

def ofField (name : List Char) : Phrase := ⟨name, name, '!' :: name⟩

def infixText (left : List Char) (symbol : String) (right : List Char) : List Char :=
  left ++ ' ' :: symbol.toList ++ ' ' :: right

def negatedSymbol? : Operator → Option String
  | .eq => some "!="
  | .contains => some "not contains"
  | .matching => some "not =~"
  | .isIn => some "not in"
  | _ => none

def isLogical : Operator → Bool
  | .and | .or => true
  | _ => false

def ofBinary (op : Operator) (left right : Phrase) : Phrase :=
  let root := infixText left.part op.symbol right.part
  let part := if isLogical op then parenthesize root else root
  { root, part
    denial := match negatedSymbol? op with
      | some symbol => infixText left.part symbol right.part
      | none => deny part }

def ofNegation : Option Phrase → Phrase
  | none => ofText "not ()".toList
  | some operand => ofText operand.denial

def ofOperator (op : Operator) (left right : Option Phrase) : Phrase :=
  match op, left, right with
  | .not, _, right => ofNegation right
  | op, some left, some right => ofBinary op left right
  | op, _, _ => ofText ("<invalid ".toList ++ op.name.toList ++ ['>'])

def listText (elements : List Phrase) : List Char :=
  Text.joinWith ", ".toList (elements.map Phrase.part)

mutual

def ofNode : Node → Phrase
  | .operator op left right => ofOperator op (ofOption left) (ofOption right)
  | .field name => ofField name.toList
  | .literal kind value => ofText (Literal.text kind value)
  | .array elements => ofText ('[' :: listText (ofList elements) ++ [']'])
  | .call name args => ofText (name.toList ++ '(' :: listText (ofList args) ++ [')'])
  | .unknown => ofText "<unknown>".toList

def ofOption : Option Node → Option Phrase
  | none => none
  | some n => some (ofNode n)

def ofList : List Node → List Phrase
  | [] => []
  | n :: rest => ofNode n :: ofList rest

end

end Phrase

def Node.render (n : Node) (isRoot : Bool) : String :=
  String.ofList (if isRoot then (Phrase.ofNode n).root else (Phrase.ofNode n).part)

end Verdict
