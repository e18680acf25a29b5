import Verdict.Document.Reader
import Verdict.Document.Shape
import Verdict.Rule.Encode

set_option autoImplicit false

namespace Verdict

namespace Node

inductive Tag where
  | operator | field | literal | array | function | unknown
deriving DecidableEq

def Tag.ofName (text : String) : Tag :=
  match text with
  | "operator" => .operator
  | "field" => .field
  | "literal" => .literal
  | "array" => .array
  | "function" => .function
  | _ => .unknown

def Tag.ofIndex (n : Nat) : Tag :=
  match n with
  | 0 => .operator
  | 1 => .field
  | 2 => .literal
  | 3 => .array
  | 4 => .function
  | _ => .unknown

/-- Where a node stands. Only nodes within others may have a number for a tag. -/
inductive Place where
  | root | inner
deriving DecidableEq

abbrev Decoding (α : Type) := Except ShapeFault α

def decodeTag (place : Place) (d : Datum) : Decoding Tag :=
  match place, d with
  | _, .str s => .ok (.ofName s)
  | .inner, .num (.int i h) =>
      if 0 ≤ i then .ok (.ofIndex i.toNat) else .error (.wrongType (.num (.int i h)) .tag)
  | _, d => .error (.wrongType d .tag)

def decodeText (d : Datum) : Decoding String :=
  match d with
  | .str s => .ok s
  | d => .error (.wrongType d .text)

def tagAmong (place : Place) : Option Tag → List (String × Datum) → Decoding Tag
  | none, [] => .error (.missing tagKey)
  | some tag, [] => .ok tag
  | seen, (key, d) :: rest =>
      if key = tagKey then
        match seen with
        | some _ => .error (.duplicate tagKey)
        | none =>
            match decodeTag place d with
            | .ok tag => tagAmong place (some tag) rest
            | .error fault => .error fault
      else tagAmong place seen rest

structure FieldParts where
  name : Option String

structure LiteralParts where
  kind : Option LiteralKind
  value : Option Datum

structure OperatorParts where
  op : Option Operator
  left : Option (Option Node)
  right : Option (Option Node)

structure CallParts where
  name : Option String
  args : Option (List Node)

def required {α : Type} (member : String) : Option α → Decoding α
  | some a => .ok a
  | none => .error (.missing member)

def once {α : Type} (member : String) (seen : Option α) (read : Decoding α) : Decoding α :=
  match seen with
  | some _ => .error (.duplicate member)
  | none => read

def decodeKind (d : Datum) : Decoding LiteralKind :=
  match d with
  | .str s => .ok (.ofName s)
  | .obj [(key, .null)] | .obj [(key, .obj [])] => .ok (.ofName key)
  | .obj [(_, d)] => .error (.wrongType d .unit)
  | .obj _ => .error .notSingleEntry
  | d => .error (.wrongType d .kind)

def fieldMembers : FieldParts → List (String × Datum) → Decoding Node
  | parts, [] => do
      let name ← required "name" parts.name
      return .field name
  | parts, (key, d) :: rest =>
      if key = "name" then do
        let name ← once key parts.name (decodeText d)
        fieldMembers ⟨some name⟩ rest
      else fieldMembers parts rest

def fieldList : List Datum → Decoding Node
  | [] => .error (.tooShort 0 .field)
  | name :: rest => do
      let name ← decodeText name
      if rest.isEmpty then return .field name else .error (.tooLong (1 + rest.length) 1)

def literalMembers : LiteralParts → List (String × Datum) → Decoding Node
  | parts, [] => do
      let kind ← required "type" parts.kind
      return .literal kind (parts.value.getD .null)
  | parts, (key, d) :: rest =>
      if key = "type" then do
        let kind ← once key parts.kind (decodeKind d)
        literalMembers { parts with kind := some kind } rest
      else if key = "value" then do
        let value ← once key parts.value (.ok d.canonical)
        literalMembers { parts with value := some value } rest
      else literalMembers parts rest

def literalList : List Datum → Decoding Node
  | [] => .error (.tooShort 0 .literal)
  | [kind] => do
      let kind ← decodeKind kind
      return .literal kind .null
  | kind :: value :: rest => do
      let kind ← decodeKind kind
      if rest.isEmpty then return .literal kind value.canonical
      else .error (.tooLong (2 + rest.length) 2)

def nothingList (members : List Datum) : Decoding Node :=
  if members.isEmpty then .ok .unknown else .error (.tooLong members.length 0)

def operand (d : Datum) (read : Decoding Node) : Decoding (Option Node) :=
  match d with
  | .null => .ok none
  | _ => read.map some

def OperatorParts.finish (parts : OperatorParts) : Decoding Node := do
  let op ← required "operator" parts.op
  return .operator op (parts.left.getD none) (parts.right.getD none)

def CallParts.finish (parts : CallParts) : Decoding Node := do
  let name ← required "name" parts.name
  return .call name (parts.args.getD [])

mutual

def decode (place : Place) : Datum → Decoding Node
  | .obj members => do
      match ← tagAmong place none members with
      | .operator => operatorMembers ⟨none, none, none⟩ members
      | .field => fieldMembers ⟨none⟩ members
      | .literal => literalMembers ⟨none, none⟩ members
      | .array => do
          let elements ← elementMembers none members
          return .array elements
      | .function => callMembers ⟨none, none⟩ members
      | .unknown => return .unknown
  | .arr [] => .error (.missing tagKey)
  | .arr (tag :: members) => do
      match ← decodeTag place tag with
      | .operator => operatorList members
      | .field => fieldList members
      | .literal => literalList members
      | .array => do
          let elements ← elementList members
          return .array elements
      | .function => callList members
      | .unknown => nothingList members
  | d => .error (.wrongType d .node)

def decodeNodes : Datum → Decoding (List Node)
  | .arr elements => decodeEach elements
  | d => .error (.wrongType d .list)

def decodeEach : List Datum → Decoding (List Node)
  | [] => .ok []
  | d :: rest => do
      let n ← decode .inner d
      let more ← decodeEach rest
      return n :: more

def operatorMembers : OperatorParts → List (String × Datum) → Decoding Node
  | parts, [] => parts.finish
  | parts, (key, d) :: rest =>
      if key = "operator" then do
        let name ← once key (parts.op.map Operator.name) (decodeText d)
        operatorMembers { parts with op := some (.ofName name) } rest
      else if key = "left" then do
        let left ← once key parts.left (operand d (decode .inner d))
        operatorMembers { parts with left := some left } rest
      else if key = "right" then do
        let right ← once key parts.right (operand d (decode .inner d))
        operatorMembers { parts with right := some right } rest
      else operatorMembers parts rest

def operatorList : List Datum → Decoding Node
  | [] => .error (.tooShort 0 .operator)
  | [op] => do
      let name ← decodeText op
      return .operator (.ofName name) none none
  | [op, left] => do
      let name ← decodeText op
      let left ← operand left (decode .inner left)
      return .operator (.ofName name) left none
  | op :: left :: right :: rest => do
      let name ← decodeText op
      let left ← operand left (decode .inner left)
      let right ← operand right (decode .inner right)
      if rest.isEmpty then return .operator (.ofName name) left right
      else .error (.tooLong (3 + rest.length) 3)

def elementMembers : Option (List Node) → List (String × Datum) → Decoding (List Node)
  | elements, [] => .ok (elements.getD [])
  | elements, (key, d) :: rest =>
      if key = "elements" then do
        let read ← once key elements (decodeNodes d)
        elementMembers (some read) rest
      else elementMembers elements rest

def elementList : List Datum → Decoding (List Node)
  | [] => .ok []
  | elements :: rest => do
      let read ← decodeNodes elements
      if rest.isEmpty then return read else .error (.tooLong (1 + rest.length) 1)

def decodeArgs : Datum → Decoding (List Node)
  | .obj members => elementMembers none members
  | .arr members => elementList members
  | d => .error (.wrongType d .arguments)

def callMembers : CallParts → List (String × Datum) → Decoding Node
  | parts, [] => parts.finish
  | parts, (key, d) :: rest =>
      if key = "name" then do
        let name ← once key parts.name (decodeText d)
        callMembers { parts with name := some name } rest
      else if key = "args" then do
        let args ← once key parts.args (decodeArgs d)
        callMembers { parts with args := some args } rest
      else callMembers parts rest

def callList : List Datum → Decoding Node
  | [] => .error (.tooShort 0 .function)
  | [name] => do
      let name ← decodeText name
      return .call name []
  | name :: args :: rest => do
      let name ← decodeText name
      let args ← decodeArgs args
      if rest.isEmpty then return .call name args
      else .error (.tooLong (2 + rest.length) 2)

end

end Node

end Verdict
