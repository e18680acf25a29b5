import Verdict.Pattern.Compact

set_option autoImplicit false

namespace Verdict.Pattern

open Unicode (Ranges)

inductive Op where
  | chars (set : Ranges.Index) (next : Nat)
  | look (look : Look) (next : Nat)
  | branch (first second : Nat)
  | found

abbrev Program := Array Op

def Program.add (program : Program) (op : Op) : Program × Nat :=
  let place := program.size
  (program.push op, place)

abbrev Part := (program : Program) → (next : Nat) → Program × Nat

def repeatPart (part : Part) : (count : Nat) → Part
  | 0 => fun program next => (program, next)
  | count + 1 => fun program next =>
      let (program, start) := part program next
      repeatPart part count program start

def optionalPart (part : Part) (exit : Nat) : (count : Nat) → Part
  | 0 => fun program next => (program, next)
  | count + 1 => fun program next =>
      let (program, start) := part program next
      let (program, start) := program.add (.branch start exit)
      optionalPart part exit count program start

def loopPart (part : Part) : Part := fun program next =>
  let (program, entry) := program.add .found
  let (program, start) := part program entry
  (program.setIfInBounds entry (.branch start next), entry)

def textPart : List Char → Part
  | [] => fun program next => (program, next)
  | c :: rest => fun program next =>
      let (program, start) := textPart rest program next
      program.add (.chars (Ranges.index [(c.toNat, c.toNat)]) start)

mutual

def Compact.part : Compact → Part
  | .empty => fun program next => (program, next)
  | .text cs => textPart cs
  | .chars set => fun program next => program.add (.chars set.index next)
  | .look condition => fun program next => program.add (.look condition next)
  | .repetition item least most _ => fun program next =>
      let (program, rest) := match most with
        | none => loopPart item.part program next
        | some most => optionalPart item.part next (most - least) program next
      repeatPart item.part least program rest
  | .capture item => item.part
  | .alternation items => Compact.choicePart items
  | .sequence items => Compact.sequencePart items

def Compact.choicePart : List Compact → Part
  | [] => fun program _ => program.add (.chars (Ranges.index []) 0)
  | [item] => item.part
  | item :: rest => fun program next =>
      let (program, second) := Compact.choicePart rest program next
      let (program, first) := item.part program next
      program.add (.branch first second)

def Compact.sequencePart : List Compact → Part
  | [] => fun program next => (program, next)
  | item :: rest => fun program next =>
      let (program, start) := Compact.sequencePart rest program next
      item.part program start

end

structure Machine where
  program : Program
  start : Nat

def Compact.machine (e : Compact) : Machine :=
  let (program, start) := e.part #[.found] 0
  ⟨program, start⟩

structure Position where
  before : Option Char
  after : Option Char

def isWord (unicode : Bool) (c : Option Char) : Bool :=
  match c with
  | none => false
  | some c =>
      if unicode then Unicode.wordIndex.contains c.toNat
      else c.isAlphanum || c == '_'

def wordHolds (kind : Assertion) (before after : Bool) : Bool :=
  match kind with
  | .wordBoundary => before != after
  | .notWordBoundary => before == after
  | .wordStart => !before && after
  | .wordEnd => before && !after
  | .wordStartHalf => !before
  | .wordEndHalf => !after
  | .lineStart | .lineEnd | .textStart | .textEnd => false

def Look.holds (look : Look) (p : Position) : Bool :=
  match look with
  | .textStart => p.before.isNone
  | .textEnd => p.after.isNone
  | .lineStart => p.before.isNone || p.before == some '\n'
  | .lineEnd => p.after.isNone || p.after == some '\n'
  | .anyLineStart =>
      p.before.isNone || p.before == some '\n'
        || (p.before == some '\r' && p.after != some '\n')
  | .anyLineEnd =>
      p.after.isNone || p.after == some '\r'
        || (p.after == some '\n' && p.before != some '\r')
  | .word unicode kind => wordHolds kind (isWord unicode p.before) (isWord unicode p.after)

structure Reached where
  visited : Array Bool
  readers : List (Ranges.Index × Nat)
  found : Bool

-- Every step is visited at most once, and adds at most one to those that wait.
def follow (program : Program) (p : Position) : (fuel : Nat) → List Nat → Reached → Reached
  | 0, _, reached => reached
  | _ + 1, [], reached => reached
  | fuel + 1, i :: waiting, reached =>
      if reached.visited[i]? != some false then follow program p fuel waiting reached
      else
        let reached := { reached with visited := reached.visited.setIfInBounds i true }
        match program[i]? with
        | none => follow program p fuel waiting reached
        | some .found => { reached with found := true }
        | some (.chars set next) =>
            follow program p fuel waiting { reached with readers := (set, next) :: reached.readers }
        | some (.look condition next) =>
            follow program p fuel (if condition.holds p then next :: waiting else waiting) reached
        | some (.branch first second) => follow program p fuel (first :: second :: waiting) reached

def reach (program : Program) (p : Position) (starts : List Nat) : Reached :=
  follow program p (2 * program.size + starts.length + 1) starts
    ⟨Array.replicate program.size false, [], false⟩

def searchFrom (m : Machine) : Option Char → List Nat → List Char → Bool
  | before, states, [] => (reach m.program ⟨before, none⟩ (states ++ [m.start])).found
  | before, states, c :: rest =>
      let reached := reach m.program ⟨before, some c⟩ (states ++ [m.start])
      if reached.found then true
      else
        let next := (reached.readers.filter fun (set, _) => set.contains c.toNat).map Prod.snd
        searchFrom m (some c) next rest

def Machine.search (m : Machine) (text : List Char) : Bool := searchFrom m none [] text

end Verdict.Pattern
