import Verdict.Pattern.Tree
import Verdict.Unicode.Folding
import Verdict.Unicode.Lookup

set_option autoImplicit false

namespace Verdict.Pattern

open Unicode (Ranges)

inductive Look where
  | textStart | textEnd
  | lineStart | lineEnd
  -- lines that end in a carriage return, a line feed or both
  | anyLineStart | anyLineEnd
  | word (unicode : Bool) (kind : Assertion)
deriving DecidableEq

inductive Expr where
  | empty
  | chars (set : Ranges)
  | look (look : Look)
  | repetition (item : Expr) (least : Nat) (most : Option Nat) (isLazy : Bool)
  | capture (item : Expr)
  | alternation (items : List Expr)
  | sequence (items : List Expr)

structure Mode where
  ignoreCase : Bool := false
  multiLine : Bool := false
  dotNewline : Bool := false
  swapGreed : Bool := false
  unicode : Bool := true
  carriageReturn : Bool := false

def Mode.apply (mode : Mode) (change : FlagChange) : Mode where
  ignoreCase := (change.of .ignoreCase).getD mode.ignoreCase
  multiLine := (change.of .multiLine).getD mode.multiLine
  dotNewline := (change.of .dotNewline).getD mode.dotNewline
  swapGreed := (change.of .swapGreed).getD mode.swapGreed
  unicode := (change.of .unicode).getD mode.unicode
  carriageReturn := (change.of .carriageReturn).getD mode.carriageReturn

def isAsciiSet (set : Ranges) : Bool := set.all fun range => range.2 < 0x80

/-- A set folded and complemented as asked. Where characters are bytes the complement reaches beyond
ASCII, and then there is none. -/
def foldAndNegate? (mode : Mode) (negated : Bool) (set : Ranges) : Option Ranges :=
  if mode.unicode then
    let set := if mode.ignoreCase then set.foldCase else set
    some (if negated then set.complement else set)
  else
    let set := if mode.ignoreCase then set.foldAscii else set
    if negated then none else if isAsciiSet set then some set else none

def plainShorthand (unicode : Bool) : Shorthand → Ranges
  | .digit => if unicode then Unicode.digit else [(0x30, 0x39)]
  | .space => if unicode then Unicode.space else [(9, 13), (0x20, 0x20)]
  | .word =>
      if unicode then Unicode.word else [(0x30, 0x39), (0x41, 0x5a), (0x5f, 0x5f), (0x61, 0x7a)]

def shorthandSet? (mode : Mode) (kind : Shorthand) (negated : Bool) : Option Ranges :=
  let set := plainShorthand mode.unicode kind
  if !negated then some set
  else if mode.unicode then some set.complement
  else none

def looseName (name : String) : String :=
  let lower := name.toList.map Char.toLower
  let (hadIs, body) := match lower with
    | 'i' :: 's' :: rest => (true, rest)
    | text => (false, text)
  let kept := body.filter fun c => c.toNat < 0x80 && c != ' ' && c != '_' && c != '-'
  if hadIs && kept == ['c'] then "isc" else String.ofList kept

def namedSet? (name : String) : Option Ranges :=
  let property :=
    if name == "cf" || name == "sc" || name == "lc" then none else Unicode.property? name
  (property.or (Unicode.generalCategory? name)).or (Unicode.script? name)

def querySet? : Query → Option Ranges
  | .name name => namedSet? (looseName name)
  | .value name value =>
      let value := looseName value
      match looseName name with
      | "gc" | "generalcategory" => Unicode.generalCategory? value
      | "sc" | "script" => Unicode.script? value
      | "scx" | "scriptextensions" => Unicode.scriptExtension? value
      | "age" => Unicode.age? value
      | "gcb" | "graphemeclusterbreak" => Unicode.Table.find? Unicode.graphemeBreakTexts value
      | "wb" | "wordbreak" => Unicode.Table.find? Unicode.wordBreakTexts value
      | "sb" | "sentencebreak" => Unicode.Table.find? Unicode.sentenceBreakTexts value
      | _ => none

def classCode? (mode : Mode) (l : Literal) : Option Nat :=
  if mode.unicode || l.char.toNat < 0x80 then some l.char.toNat else none

def ClassOp.apply : ClassOp → Ranges → Ranges → Ranges
  | .inter => Ranges.inter
  | .diff => Ranges.diff
  | .symmDiff => Ranges.symmDiff

def foldOperand (mode : Mode) (set : Ranges) : Ranges :=
  if !mode.ignoreCase then set
  else if mode.unicode then set.foldCase
  else set.foldAscii

mutual

def classSet? (mode : Mode) : ClassTree → Option Ranges
  | .literal l => (classCode? mode l).map fun n => [(n, n)]
  | .range low high =>
      match classCode? mode low, classCode? mode high with
      | some a, some b => some [(a, b)]
      | _, _ => none
  | .named ranges negated => foldAndNegate? mode negated ranges
  | .shorthand kind negated => shorthandSet? mode kind negated
  | .property query negated =>
      if mode.unicode then (querySet? query).bind (foldAndNegate? mode negated) else none
  | .bracket negated set => (classSet? mode set).bind (foldAndNegate? mode negated)
  | .union items => (unionSet? mode items).map Ranges.ofList
  | .binary op left right =>
      match classSet? mode left, classSet? mode right with
      | some a, some b => some (op.apply (foldOperand mode a) (foldOperand mode b))
      | _, _ => none

def unionSet? (mode : Mode) : List ClassTree → Option (List (Nat × Nat))
  | [] => some []
  | item :: rest =>
      match classSet? mode item, unionSet? mode rest with
      | some a, some b => some (a ++ b)
      | _, _ => none

end

def literalSet? (mode : Mode) (l : Literal) : Option Ranges :=
  let n := l.char.toNat
  if !mode.unicode && l.byte && 0x80 ≤ n then none
  else some (foldOperand mode [(n, n)])

def dotSet? (mode : Mode) : Option Ranges :=
  if !mode.unicode then none
  else if mode.dotNewline then some Ranges.full
  else if mode.carriageReturn then some (Ranges.complement [(0x0a, 0x0a), (0x0d, 0x0d)])
  else some (Ranges.complement [(0x0a, 0x0a)])

def lookOf (mode : Mode) : Assertion → Look
  | .textStart => .textStart
  | .textEnd => .textEnd
  | .lineStart =>
      if !mode.multiLine then .textStart
      else if mode.carriageReturn then .anyLineStart
      else .lineStart
  | .lineEnd =>
      if !mode.multiLine then .textEnd
      else if mode.carriageReturn then .anyLineEnd
      else .lineEnd
  | kind => .word mode.unicode kind

mutual

def meaning? (mode : Mode) : Tree → Option (Expr × Mode)
  | .empty => some (.empty, mode)
  | .flags change => some (.empty, mode.apply change)
  | .literal l => (literalSet? mode l).map fun set => (.chars set, mode)
  | .dot => (dotSet? mode).map fun set => (.chars set, mode)
  | .assertion a => some (.look (lookOf mode a), mode)
  | .class set => (classSet? mode set).map fun set => (.chars set, mode)
  | .repetition item least most isLazy =>
      (meaning? mode item).map fun (e, mode) =>
        (.repetition e least most (isLazy != mode.swapGreed), mode)
  | .group change item =>
      (meaning? (mode.apply change) item).map fun (e, _) => (e, mode)
  | .capture item =>
      (meaning? mode item).map fun (e, _) => (.capture e, mode)
  | .alternation items =>
      (meaningOf? mode items).map fun (es, mode) => (.alternation es, mode)
  | .sequence items =>
      (meaningOf? mode items).map fun (es, mode) => (.sequence es, mode)

def meaningOf? (mode : Mode) : List Tree → Option (List Expr × Mode)
  | [] => some ([], mode)
  | item :: rest =>
      match meaning? mode item with
      | none => none
      | some (e, mode) => (meaningOf? mode rest).map fun (es, mode) => (e :: es, mode)

end

def Tree.expr? (tree : Tree) : Option Expr := (meaning? {} tree).map Prod.fst

end Verdict.Pattern
