import Verdict.Datum.Display

set_option autoImplicit false

namespace Verdict

inductive Level where
  | trace | debug | info | warn | error
deriving DecidableEq

namespace Level

def name : Level → String
  | .trace => "TRACE"
  | .debug => "DEBUG"
  | .info => "INFO"
  | .warn => "WARN"
  | .error => "ERROR"

def verbosity : Level → Nat
  | .error => 1
  | .warn => 2
  | .info => 3
  | .debug => 4
  | .trace => 5

end Level

inductive Side where
  | left | right
deriving DecidableEq

inductive Event where
  | fieldMissing (name : String)
  | functionMissing (name : String)
  | functionFailed (name message : String)
  | andStopped (side : Side)
  | orStopped
  | badPattern (source : String)
  | compiled (fields : Nat)
deriving DecidableEq

inductive Span where
  | eval (fields : Nat)
  | compile
deriving DecidableEq

inductive FieldValue where
  | number (n : Nat)
  | flag (b : Bool)
  | word (s : String)
  | shown (s : String)

abbrev Fields := List (String × FieldValue)

namespace Event

def level : Event → Level
  | .fieldMissing _ | .functionMissing _ | .badPattern _ | .compiled _ => .debug
  | .functionFailed .. => .warn
  | .andStopped _ | .orStopped => .trace

def target : Event → String
  | .badPattern _ => "rule_engine::value"
  | .compiled _ => "rule_engine::compiler"
  | .fieldMissing _ | .functionMissing _ | .functionFailed .. | .andStopped _ | .orStopped =>
      "rule_engine::evaluator"

def message : Event → String
  | .fieldMissing _ => "字段不存在"
  | .functionMissing _ => "函数未注册"
  | .functionFailed .. => "自定义函数执行失败"
  | .andStopped _ => "AND 短路"
  | .orStopped => "OR 短路"
  | .badPattern _ => "无效的正则表达式"
  | .compiled _ => "规则编译完成"

def fields : Event → Fields
  | .fieldMissing name => [("field", .shown name)]
  | .functionMissing name => [("function", .shown name)]
  | .functionFailed name message => [("function", .shown name), ("error", .shown message)]
  | .andStopped .left => [("side", .word "left")]
  | .andStopped .right => [("side", .word "right")]
  | .orStopped => []
  | .badPattern source => [("pattern", .shown source)]
  | .compiled fields => [("fields", .number fields)]

end Event

namespace Span

def name : Span → String
  | .eval _ => "eval"
  | .compile => "compile"

def target : Span → String
  | .eval _ => "rule_engine::rule"
  | .compile => "rule_engine::compiler"

def fields : Span → Fields
  | .eval fields => [("fields", .number fields)]
  | .compile => []

def level : Level := .info

end Span

end Verdict
