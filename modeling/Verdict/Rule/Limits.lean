import Verdict.Evaluation.Event
import Verdict.Rule.Basic

set_option autoImplicit false

namespace Verdict

inductive Limit where
  | depth | nodes
deriving DecidableEq

def Limit.name : Limit → String
  | .depth => "depth"
  | .nodes => "nodes"

structure Limits where
  maxDepth : Nat := 64
  maxNodes : Nat := 10000
deriving DecidableEq

structure LimitFault where
  limit : Limit
  actual : Nat
  max : Nat
deriving DecidableEq

namespace Limits

def check (limits : Limits) (root : Node) : Except LimitFault Unit :=
  if limits.maxDepth < root.depth then .error ⟨.depth, root.depth, limits.maxDepth⟩
  else if limits.maxNodes < root.count then .error ⟨.nodes, root.count, limits.maxNodes⟩
  else .ok ()

def compile (limits : Limits) (root : Node) : Except LimitFault Rule :=
  (limits.check root).map fun _ => Rule.ofNode root

def compileEvents (limits : Limits) (root : Node) : List Event :=
  match limits.compile root with
  | .ok rule => [.compiled rule.requiredFields.length]
  | .error _ => []

end Limits

inductive RuleFault where
  | document (fault : DecodeFault)
  | limit (fault : LimitFault)
  | conflict (name : String)

namespace RuleFault

def shapeMessage (fault : ShapeFault) : String := "AST JSON 解析失败: " ++ fault.message

def limitMessage (fault : LimitFault) : String :=
  "规则超出限制: " ++ fault.limit.name ++ " 为 " ++ toString fault.actual
    ++ ", 上限 " ++ toString fault.max

def conflictMessage (name : String) : String := "函数名冲突: " ++ name ++ " 已注册"

end RuleFault

namespace Limits

-- The text is read in full before the limits are looked at.
def compileJson (limits : Limits) (json : String) : Except RuleFault Rule :=
  match Rule.ofJson json with
  | .error fault => .error (.document fault)
  | .ok rule =>
      match limits.compile rule.root with
      | .error fault => .error (.limit fault)
      | .ok rule => .ok rule

end Limits

end Verdict
