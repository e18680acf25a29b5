import Verdict.Unicode.Ranges

set_option autoImplicit false

namespace Verdict.Pattern

open Unicode (Ranges)

inductive Flag where
  | ignoreCase | multiLine | dotNewline | swapGreed | unicode | carriageReturn | spacing
deriving DecidableEq

structure FlagChange where
  on : List Flag
  off : List Flag

def FlagChange.of (change : FlagChange) (flag : Flag) : Option Bool :=
  if change.on.contains flag then some true
  else if change.off.contains flag then some false
  else none

structure Literal where
  char : Char
  byte : Bool := false

inductive Shorthand where
  | digit | space | word
deriving DecidableEq

inductive Query where
  | name (name : String)
  | value (name value : String)

inductive ClassOp where
  | inter | diff | symmDiff
deriving DecidableEq

inductive ClassTree where
  | literal (l : Literal)
  | range (low high : Literal)
  | named (ranges : Ranges) (negated : Bool)
  | shorthand (kind : Shorthand) (negated : Bool)
  | property (query : Query) (negated : Bool)
  | bracket (negated : Bool) (set : ClassTree)
  | union (items : List ClassTree)
  | binary (op : ClassOp) (left right : ClassTree)

inductive Assertion where
  | lineStart | lineEnd | textStart | textEnd
  | wordBoundary | notWordBoundary
  | wordStart | wordEnd | wordStartHalf | wordEndHalf
deriving DecidableEq

inductive Tree where
  | empty
  | flags (change : FlagChange)
  | literal (l : Literal)
  | dot
  | assertion (a : Assertion)
  | class (set : ClassTree)
  -- a lazy one takes as few as it can
  | repetition (item : Tree) (least : Nat) (most : Option Nat) (isLazy : Bool)
  | group (change : FlagChange) (item : Tree)
  | capture (item : Tree)
  | alternation (items : List Tree)
  | sequence (items : List Tree)

mutual

def ClassTree.nesting : ClassTree → Nat
  | .literal _ | .range .. | .named .. | .shorthand .. | .property .. => 0
  | .bracket _ set => 1 + set.nesting
  | .union [] => 0
  | .union (item :: rest) => 1 + ClassTree.nestingOf (item :: rest)
  | .binary _ left right => 1 + max left.nesting right.nesting

def ClassTree.nestingOf : List ClassTree → Nat
  | [] => 0
  | item :: rest => max item.nesting (ClassTree.nestingOf rest)

end

mutual

def Tree.nesting : Tree → Nat
  | .empty | .flags _ | .literal _ | .dot | .assertion _ => 0
  | .class set => set.nesting
  | .repetition item _ _ _ => 1 + item.nesting
  | .group _ item => 1 + item.nesting
  | .capture item => 1 + item.nesting
  | .alternation items => 1 + Tree.nestingOf items
  | .sequence items => 1 + Tree.nestingOf items

def Tree.nestingOf : List Tree → Nat
  | [] => 0
  | item :: rest => max item.nesting (Tree.nestingOf rest)

end

def Tree.ofSequence : List Tree → Tree
  | [] => .empty
  | [item] => item
  | items => .sequence items

def Tree.ofAlternatives : List Tree → Tree
  | [item] => item
  | items => .alternation items

def ClassTree.ofItems : List ClassTree → ClassTree
  | [item] => item
  | items => .union items

end Verdict.Pattern
