import Verdict.Datum.Basic
import Verdict.Text.Search

set_option autoImplicit false

namespace Verdict

namespace Datum

def member? (d : Datum) (key : String) : Option Datum :=
  match d with
  | .obj members => members.lookup key
  | _ => none

def descend? : List String → Datum → Option Datum
  | [], d => some d
  | key :: rest, d =>
      match d.member? key with
      | some next => descend? rest next
      | none => none

def segments (path : String) : List String :=
  (Text.pieces '.' path.toList).map String.ofList

def resolve? (record : Datum) (path : String) : Option Datum :=
  (record.member? path).or (descend? (segments path) record)

end Datum

end Verdict
