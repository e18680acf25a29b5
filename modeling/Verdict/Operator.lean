set_option autoImplicit false

namespace Verdict

inductive Operator where
  | eq | ne | gt | ge | lt | le
  | contains | matching | isIn
  | and | or | not
  | other (name : String)
deriving DecidableEq

namespace Operator

def name : Operator → String
  | .eq => "eq"
  | .ne => "ne"
  | .gt => "gt"
  | .ge => "ge"
  | .lt => "lt"
  | .le => "le"
  | .contains => "contains"
  | .matching => "matches"
  | .isIn => "in"
  | .and => "and"
  | .or => "or"
  | .not => "not"
  | .other name => name

def symbol : Operator → String
  | .eq => "=="
  | .ne => "!="
  | .gt => ">"
  | .ge => ">="
  | .lt => "<"
  | .le => "<="
  | .matching => "=~"
  | op => op.name

def ofName (text : String) : Operator :=
  match text with
  | "eq" | "==" => .eq
  | "ne" | "!=" => .ne
  | "gt" | ">" => .gt
  | "ge" | ">=" => .ge
  | "lt" | "<" => .lt
  | "le" | "<=" => .le
  | "contains" => .contains
  | "matches" | "=~" => .matching
  | "in" => .isIn
  | "and" | "&&" => .and
  | "or" | "||" => .or
  | "not" | "!" => .not
  | name => .other name

def isOther : Operator → Bool
  | .other _ => true
  | _ => false

end Operator

end Verdict
