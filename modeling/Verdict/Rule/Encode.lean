import Verdict.Document.Writer
import Verdict.Rule.Literal

set_option autoImplicit false

namespace Verdict

namespace Node

def tagKey : String := "node_type"

def tagged (tag : String) (members : List (String × Datum)) : Datum :=
  .obj ((tagKey, .str tag) :: members)

mutual

def encode : Node → Datum
  | .operator op left right =>
      tagged "operator"
        [("operator", .str op.name), ("left", encodeOption left), ("right", encodeOption right)]
  | .field name => tagged "field" [("name", .str name)]
  | .literal kind value => tagged "literal" [("type", .str kind.name), ("value", value)]
  | .array elements => tagged "array" [("elements", .arr (encodeList elements))]
  | .call name args =>
      tagged "function"
        [("name", .str name), ("args", tagged "array" [("elements", .arr (encodeList args))])]
  | .unknown => tagged "unknown" []

def encodeOption : Option Node → Datum
  | none => .null
  | some n => encode n

def encodeList : List Node → List Datum
  | [] => []
  | n :: rest => encode n :: encodeList rest

end

def toJson (n : Node) : String := String.ofList (Document.write n.encode)

end Node

end Verdict
