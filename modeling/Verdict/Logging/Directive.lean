import Verdict.Evaluation.Event
import Verdict.Pattern.Language
import Verdict.Scalar
import Verdict.Text.Bytes

set_option autoImplicit false

namespace Verdict

inductive Threshold where
  | off
  | upTo (level : Level)
deriving DecidableEq

namespace Threshold

def verbosity : Threshold → Nat
  | .off => 0
  | .upTo level => level.verbosity

def admits (t : Threshold) (level : Level) : Bool := level.verbosity ≤ t.verbosity

def max (a b : Threshold) : Threshold := if a.verbosity < b.verbosity then b else a

def all : List Threshold :=
  [.off, .upTo .error, .upTo .warn, .upTo .info, .upTo .debug, .upTo .trace]

def name : Threshold → String
  | .off => "off"
  | .upTo .error => "error"
  | .upTo .warn => "warn"
  | .upTo .info => "info"
  | .upTo .debug => "debug"
  | .upTo .trace => "trace"

def read? (text : List Char) : Option Threshold :=
  let named := all.find? fun t => t.name.toList = text.map Char.toLower
  match Numeral.word? 64 10 text with
  | some n => all[n]?
  | none => named

end Threshold

inductive ValueFilter where
  | scalar (s : Scalar)
  | pattern (source : List Char)
deriving DecidableEq

namespace ValueFilter

def read? (text : List Char) : Option ValueFilter :=
  match Scalar.read? text with
  | some s => some (.scalar s)
  | none => if Pattern.isRegular text then some (.pattern text) else none

def text : ValueFilter → List Char
  | .scalar s => s.text
  | .pattern source => source

def kind : ValueFilter → Nat
  | .scalar (.flag _) => 0
  | .scalar (.real _) => 1
  | .scalar .nan => 2
  | .scalar (.natural _) => 3
  | .scalar (.integer _) => 4
  | .pattern _ => 5

def compareChars (a b : List Char) : Ordering := compare (String.ofList a) (String.ofList b)

def compareScalars : Scalar → Scalar → Ordering
  | .flag a, .flag b => compare a.toNat b.toNat
  | .real a, .real b => compare a.key b.key
  | .natural a, .natural b => compare a b
  | .integer a, .integer b => compare a b
  | _, _ => .eq

protected def compare (a b : ValueFilter) : Ordering :=
  (compare a.kind b.kind).then <| match a, b with
    | .scalar a, .scalar b => compareScalars a b
    | .pattern a, .pattern b => compareChars a b
    | _, _ => .eq

def meetsCount (n : Nat) : ValueFilter → Bool
  | .scalar (.natural m) => n == m
  | .scalar _ | .pattern _ => false

end ValueFilter

structure FieldFilter where
  name : List Char
  value : Option ValueFilter
deriving DecidableEq

structure Directive where
  target : Option (List Char) := none
  span : Option (List Char) := none
  field : Option FieldFilter := none
  threshold : Threshold := .upTo .trace
deriving DecidableEq

namespace FieldFilter

def read? (text : List Char) : Option FieldFilter :=
  match Text.pieces '=' text with
  | name :: value :: _ => (ValueFilter.read? value).map fun value => ⟨name, some value⟩
  | _ => some ⟨text, none⟩

def text (f : FieldFilter) : List Char :=
  match f.value with
  | some value => f.name ++ '=' :: value.text
  | none => f.name

protected def compare (a b : FieldFilter) : Ordering :=
  ((compare a.value.isSome.toNat b.value.isSome.toNat).then
    (ValueFilter.compareChars a.name b.name)).then <|
    match a.value, b.value with
    | some a, some b => a.compare b
    | _, _ => .eq

end FieldFilter

namespace Directive

/-- A place in a directive: the directive as it was written, how far it has been looked at without the
blanks around it, and what is left of it without them. Parts are cut from the directive as written, so
blanks before it shift what they hold. -/
structure Place where
  whole : List Char
  reached : Nat
  rest : List Char

def Place.cut (p : Place) (start : Nat) : List Char :=
  Text.takeBytes (p.reached - start) (Text.dropBytes start p.whole)

def Place.tail (p : Place) : List Char := Text.dropBytes p.reached p.whole

def Place.find? (a b : Char) (p : Place) : Option (Char × Place × Place) :=
  let passed := p.rest.takeWhile fun c => c != a && c != b
  let reached := p.reached + Text.byteLength passed
  match p.rest.drop passed.length with
  | [] => none
  | c :: rest => some (c, ⟨p.whole, reached, c :: rest⟩, ⟨p.whole, reached + c.utf8Size, rest⟩)

def readThreshold? (text : List Char) : Option Threshold :=
  if text.isEmpty then some (.upTo .trace) else Threshold.read? text

def readLevel? (d : Directive) (p : Place) : Option Directive :=
  match p.rest with
  | [] => some d
  | '=' :: _ =>
      (readThreshold? (Text.dropBytes (p.reached + 1) p.whole)).map fun threshold => { d with threshold }
  | _ => none

def readField? (d : Directive) (p : Place) : Option Directive :=
  match p.find? '\x7d' '\x7d' with
  | none => none
  | some (_, before, after) =>
      let text := before.cut p.reached
      if text.isEmpty then none
      else match FieldFilter.read? text, after.rest with
        | some field, ']' :: rest =>
            readLevel? { d with field := some field } ⟨p.whole, after.reached + 1, rest⟩
        | _, _ => none

def readSpan? (d : Directive) (p : Place) : Option Directive :=
  match p.find? ']' '\x7b' with
  | none => none
  | some (mark, before, after) =>
      let name := before.cut p.reached
      if mark == ']' then readLevel? { d with span := some name } after
      else readField? { d with span := if name.isEmpty then none else some name } after

def ofWord (text : List Char) : Directive :=
  match Threshold.read? text with
  | some threshold => { threshold }
  | none => { target := some text }

def isOpening (c : Char) : Bool :=
  c == '-' || c == ':' || c == '_' || Unicode.alphanumeric.contains c.toNat

def read? (text : List Char) : Option Directive :=
  let trimmed := Text.trim text
  match trimmed with
  | [] => none
  | '[' :: rest => readSpan? {} ⟨text, 1, rest⟩
  | c :: _ =>
      if !isOpening c then none
      else match Place.find? '=' '[' ⟨text, 0, trimmed⟩ with
        | none => some (ofWord text)
        | some (mark, before, after) =>
            let d : Directive := { target := some (before.cut 0) }
            if mark == '[' then readSpan? d after
            else (readThreshold? after.tail).map fun threshold => { d with threshold }

/-- Does it look at a span's name or fields? -/
def isDynamic (d : Directive) : Bool := d.span.isSome || d.field.isSome

def hasValue (d : Directive) : Bool := (d.field.bind FieldFilter.value).isSome

def isStatic (d : Directive) : Bool := d.span.isNone && !d.hasValue

def bracketText (d : Directive) : List Char :=
  if d.isDynamic then
    let fields := match d.field with
      | some field => '\x7b' :: field.text ++ ['\x7d']
      | none => []
    '[' :: d.span.getD [] ++ fields ++ [']']
  else []

def text (d : Directive) : List Char :=
  let level := d.threshold.name.toList
  if d.target.isSome || d.isDynamic then d.target.getD [] ++ d.bracketText ++ '=' :: level
  else level

def compareOption {α : Type} (cmp : α → α → Ordering) : Option α → Option α → Ordering
  | none, none => .eq
  | none, some _ => .lt
  | some _, none => .gt
  | some a, some b => cmp a b

/-- The more specific is the greater. Two directives for the same events are equal, whatever their levels. -/
protected def compare (a b : Directive) : Ordering :=
  (compareOption (fun a b => compare (Text.byteLength a) (Text.byteLength b)) a.target b.target)
    |>.then (compare a.span.isSome.toNat b.span.isSome.toNat)
    |>.then (compare a.field.isSome.toNat b.field.isSome.toNat)
    |>.then (compareOption ValueFilter.compareChars a.target b.target)
    |>.then (compareOption ValueFilter.compareChars a.span b.span)
    |>.then (compareOption FieldFilter.compare a.field b.field)

def insert (d : Directive) : List Directive → List Directive
  | [] => [d]
  | e :: rest =>
      match d.compare e with
      | .gt => d :: e :: rest
      | .eq => d :: rest
      | .lt => e :: insert d rest

end Directive

end Verdict
