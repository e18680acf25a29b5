import Verdict.Datum.Display
import Verdict.Document.Scalar
import Verdict.Text.Quoted

set_option autoImplicit false

namespace Verdict

inductive Expected where
  | node | tag | text | list | arguments | kind | unit | flag | outcome
deriving DecidableEq

inductive Form where
  | operator | field | literal | array | function | outcome
deriving DecidableEq

inductive ShapeFault where
  | missing (member : String)
  | duplicate (member : String)
  | wrongType (found : Datum) (expected : Expected)
  | notSingleEntry
  | tooShort (length : Nat) (form : Form)
  | tooLong (length used : Nat)
  | leftOver (length : Nat)

inductive DecodeFault where
  | unreadable (fault : Document.ReadFault)
  | shape (fault : ShapeFault)

namespace Expected

def phrase : Expected → String
  | .node => "internally tagged enum AstNode"
  | .tag => "variant identifier"
  | .text => "a string"
  | .list => "a sequence"
  | .arguments => "struct ArrayNode"
  | .kind => "string or map"
  | .unit => "unit"
  | .flag => "a boolean"
  | .outcome => "struct EvalResult"

end Expected

namespace Form

def phrase : Form → String
  | .operator => "struct OperatorNode with 3 elements"
  | .field => "struct FieldNode with 1 element"
  | .literal => "struct LiteralNode with 2 elements"
  | .array => "struct ArrayNode with 1 element"
  | .function => "struct FunctionNode with 2 elements"
  | .outcome => "struct EvalResult with 3 elements"

end Form

namespace ShapeFault

def describe : Datum → String
  | .null => "null"
  | .bool b => "boolean `" ++ String.ofList (Datum.boolText b) ++ "`"
  | .num (.int i h) => "integer `" ++ String.ofList (Number.write (.int i h)) ++ "`"
  | .num (.float x h) => "floating point `" ++ String.ofList (Number.write (.float x h)) ++ "`"
  | .str s => "string " ++ String.ofList (Text.quoted s.toList)
  | .arr _ => "sequence"
  | .obj _ => "map"

def elementCount (n : Nat) : String :=
  if n = 1 then "1 element" else toString n ++ " elements"

def message : ShapeFault → String
  | .missing member => "missing field `" ++ member ++ "`"
  | .duplicate member => "duplicate field `" ++ member ++ "`"
  | .wrongType found expected => "invalid type: " ++ describe found ++ ", expected " ++ expected.phrase
  | .notSingleEntry => "invalid value: map, expected map with a single key"
  | .tooShort length form => "invalid length " ++ toString length ++ ", expected " ++ form.phrase
  | .tooLong length used =>
      "invalid length " ++ toString length ++ ", expected " ++ elementCount used ++ " in sequence"
  | .leftOver length =>
      "invalid length " ++ toString length ++ ", expected fewer elements in array"

end ShapeFault

end Verdict
