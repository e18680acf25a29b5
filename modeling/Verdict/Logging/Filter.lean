import Verdict.Logging.Directive

set_option autoImplicit false

namespace Verdict

structure Filter where
  directives : List Directive
deriving DecidableEq

structure Origin where
  level : Level
  target : String
  fields : List String

namespace Filter

def arrange (directives : List Directive) : List Directive :=
  directives.foldl (fun sorted d => d.insert sorted) []

def dynamics (f : Filter) : List Directive := arrange (f.directives.filter Directive.isDynamic)

def statics (f : Filter) : List Directive :=
  let (dynamic, plain) := f.directives.partition Directive.isDynamic
  arrange (plain ++ dynamic.filter Directive.isStatic)

def text (f : Filter) : String :=
  String.ofList (Text.joinWith [','] ((f.statics ++ f.dynamics).map Directive.text))

def read? (text : String) : Option Filter :=
  (((Text.pieces ',' text.toList).filter (!·.isEmpty)).mapM Directive.read?).map Filter.mk

def standard : Filter := ⟨[{ threshold := .upTo .info }]⟩

def build (outside : Option String) (logLevel : String) : Filter :=
  ((outside.bind read?).or (read? logLevel)).getD standard

def hasTarget (d : Directive) (target : String) : Bool :=
  match d.target with
  | some opening => opening.isPrefixOf target.toList
  | none => true

def hasField (d : Directive) (fields : List String) : Bool :=
  match d.field with
  | some field => fields.contains (String.ofList field.name)
  | none => true

def decides (cares : Directive → Bool) (level : Level) (directives : List Directive) : Bool :=
  match directives.find? cares with
  | some d => d.threshold.admits level
  | none => false

def admitsPlain (f : Filter) (o : Origin) : Bool :=
  decides (fun d => hasTarget d o.target && hasField d o.fields) o.level f.statics

def lookingAt (f : Filter) (s : Span) : List Directive :=
  f.dynamics.filter fun d =>
    hasTarget d s.target && hasField d (s.fields.map Prod.fst)
      && (match d.span with | some name => name == s.name.toList | none => true)

def meetsValue (d : Directive) (s : Span) : Bool :=
  match d.field with
  | some ⟨name, some value⟩ =>
      match s.fields.lookup (String.ofList name) with
      | some (.number n) => value.meetsCount n
      | _ => false
  | _ => true

def ceiling (f : Filter) : Threshold :=
  if f.dynamics.any Directive.hasValue then .upTo .trace
  else (f.directives.map Directive.threshold).foldl Threshold.max .off

/-- A span is opened if a directive looks at it, whatever the directive's level, or if it is let through
like an event. The fields of a span count only for directives that look at it. -/
def opens (f : Filter) (s : Span) : Bool :=
  f.ceiling.admits Span.level
    && (!(f.lookingAt s).isEmpty || decides (hasTarget · s.target) Span.level f.statics)

def inside (f : Filter) (s : Span) : Threshold :=
  (((f.lookingAt s).filter (meetsValue · s)).map Directive.threshold).foldl Threshold.max .off

def admits (f : Filter) (within : Option Span) (o : Origin) : Bool :=
  f.admitsPlain o || match within with
    | some s => f.opens s && (f.inside s).admits o.level
    | none => false

end Filter

end Verdict
