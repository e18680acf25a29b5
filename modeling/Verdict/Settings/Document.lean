import Verdict.Document.Reader
import Verdict.Settings.Setting

set_option autoImplicit false

namespace Verdict.Setting

def ofNumber : Number → Setting
  | .int i _ => if i < 0x8000000000000000 then .integer i else .real (.ofInt i)
  | .float x _ => .real x

mutual

def ofDatum : Datum → Setting
  | .null => .vacant
  | .bool b => .flag b
  | .num n => ofNumber n
  | .str s => .text s
  | .arr xs => .list (ofData xs)
  | .obj ms => .table (ofMembers ms)

def ofData : List Datum → List Setting
  | [] => []
  | x :: rest => ofDatum x :: ofData rest

def ofMembers : List (String × Datum) → List (String × Setting)
  | [] => []
  | (name, x) :: rest => (name, ofDatum x) :: ofMembers rest

end

def ofDocument? (text : String) : Option (List (String × Setting)) :=
  match Document.read text.toList with
  | .ok d =>
      match ofDatum d.canonical with
      | .table ms => some ms
      | _ => none
  | .error _ => none

end Verdict.Setting
