import Verdict.Pattern.Meaning

set_option autoImplicit false

namespace Verdict.Pattern

open Unicode (Ranges)

inductive Compact where
  | empty
  | text (chars : List Char)
  | chars (set : Ranges)
  | look (look : Look)
  | repetition (item : Compact) (least : Nat) (most : Option Nat) (isLazy : Bool)
  | capture (item : Compact)
  | alternation (items : List Compact)
  | sequence (items : List Compact)

namespace Compact

def total (lengths : List Nat) : Nat := lengths.foldl (· + ·) 0

def least : List Nat → Nat
  | [] => 0
  | n :: rest => rest.foldl min n

def greatest (lengths : List Nat) : Nat := lengths.foldl max 0

mutual

def shortest? : Compact → Option Nat
  | .empty | .look _ => some 0
  | .text cs => some cs.length
  | .chars set => if set.isEmpty then none else some 1
  | .repetition item times _ _ => item.shortest?.map (times * ·)
  | .capture item => item.shortest?
  | .alternation items => (shortestOf? items).map least
  | .sequence items => (shortestOf? items).map total

def shortestOf? : List Compact → Option (List Nat)
  | [] => some []
  | item :: rest =>
      match item.shortest?, shortestOf? rest with
      | some n, some ns => some (n :: ns)
      | _, _ => none

end

mutual

def longest? : Compact → Option Nat
  | .empty | .look _ => some 0
  | .text cs => some cs.length
  | .chars set => if set.isEmpty then none else some 1
  | .repetition item _ most _ =>
      match most, item.longest? with
      | some most, some n => some (most * n)
      | _, _ => none
  | .capture item => item.longest?
  | .alternation items => (longestOf? items).map greatest
  | .sequence items => (longestOf? items).map total

def longestOf? : List Compact → Option (List Nat)
  | [] => some []
  | item :: rest =>
      match item.longest?, longestOf? rest with
      | some n, some ns => some (n :: ns)
      | _, _ => none

end

def isPoint (item : Compact) : Bool := item.longest? == some 0

def takesSome (item : Compact) : Bool :=
  match item.shortest? with
  | some n => 0 < n
  | none => false

mutual

def opensWith (condition : Look) : Compact → Bool
  | .empty | .text _ | .chars _ => false
  | .look l => l == condition
  | .repetition item least _ _ => 0 < least && item.opensWith condition
  | .capture item => item.opensWith condition
  | .alternation items => allOpenWith condition items
  | .sequence items => firstOpensWith condition items

def allOpenWith (condition : Look) : List Compact → Bool
  | [] => true
  | item :: rest => item.opensWith condition && allOpenWith condition rest

def firstOpensWith (condition : Look) : List Compact → Bool
  | [] => false
  | item :: rest =>
      item.opensWith condition || (item.isPoint && firstOpensWith condition rest)

end

mutual

def closesWith (condition : Look) : Compact → Bool
  | .empty | .text _ | .chars _ => false
  | .look l => l == condition
  | .repetition item least _ _ => 0 < least && item.closesWith condition
  | .capture item => item.closesWith condition
  | .alternation items => allCloseWith condition items
  | .sequence items => lastClosesWith condition items

def allCloseWith (condition : Look) : List Compact → Bool
  | [] => true
  | item :: rest => item.closesWith condition && allCloseWith condition rest

def lastClosesWith (condition : Look) : List Compact → Bool
  | [] => false
  | item :: rest =>
      lastClosesWith condition rest || (rest.all isPoint && item.closesWith condition)

end

mutual

def same : Compact → Compact → Bool
  | .empty, .empty => true
  | .text a, .text b => a == b
  | .chars a, .chars b => a == b
  | .look a, .look b => a == b
  | .repetition a least most isLazy, .repetition b least' most' isLazy' =>
      least == least' && most == most' && isLazy == isLazy' && same a b
  | .alternation as, .alternation bs => allSame as bs
  | .sequence as, .sequence bs => allSame as bs
  | _, _ => false

def allSame : List Compact → List Compact → Bool
  | [], [] => true
  | a :: as, b :: bs => same a b && allSame as bs
  | _, _ => false

end

def ofSet (set : Ranges) : Compact :=
  match set.characters with
  | [(low, high)] => if low == high then .text [Char.ofNat low] else .chars [(low, high)]
  | set => .chars set

def joinTexts : List Compact → List Compact
  | [] => []
  | item :: rest =>
      match item, joinTexts rest with
      | .text a, .text b :: more => .text (a ++ b) :: more
      | item, rest => item :: rest

def inSequence : Compact → List Compact
  | .empty => []
  | .sequence items => items
  | item => [item]

def ofSequence (items : List Compact) : Compact :=
  match joinTexts (items.flatMap inSequence) with
  | [] => .empty
  | [item] => item
  | items => .sequence items

def ofRepetition (item : Compact) (least : Nat) (most : Option Nat) (isLazy : Bool) : Compact :=
  let (least, most) :=
    if item.isPoint then (min least 1, some (min (most.getD 1) 1)) else (least, most)
  if most == some 0 then .empty
  else if least == 1 && most == some 1 then item
  else .repetition item least most isLazy

def inAlternation : Compact → List Compact
  | .alternation items => items
  | item => [item]

def code? : Compact → Option Nat
  | .text [c] => some c.toNat
  | _ => none

def set? : Compact → Option Ranges
  | .chars set => some set
  | _ => none

def commonLength : List Compact → List Compact → Nat
  | a :: as, b :: bs => if same a b then commonLength as bs + 1 else 0
  | _, _ => 0

def commonFront : List Compact → List Compact
  | .sequence first :: rest =>
      first.take (rest.foldl (fun length item => match item with
        | .sequence items => min length (commonLength first items)
        | _ => 0) first.length)
  | _ => []

def withoutFront (length : Nat) : Compact → Compact
  | .sequence items => ofSequence (items.drop length)
  | item => item

def alternatives : (fuel : Nat) → List Compact → Compact
  | fuel, items =>
      let items := items.flatMap inAlternation
      match items, items.mapM code?, items.mapM set? with
      | [], _, _ => .chars []
      | [item], _, _ => item
      | _, some codes, _ => ofSet (Ranges.ofList (codes.map fun n => (n, n)))
      | _, none, some sets => ofSet (Ranges.ofList sets.flatten)
      | items, none, none =>
          match fuel, commonFront items with
          | fuel + 1, front@(_ :: _) =>
              let rests := items.map (withoutFront front.length)
              ofSequence (front ++ [alternatives fuel rests])
          | _, _ => .alternation items

mutual

def size : Compact → Nat
  | .empty | .text _ | .chars _ | .look _ => 1
  | .repetition item _ _ _ | .capture item => item.size + 1
  | .alternation items | .sequence items => sizeOfAll items + 1

def sizeOfAll : List Compact → Nat
  | [] => 0
  | item :: rest => item.size + sizeOfAll rest

end

def ofAlternatives (items : List Compact) : Compact := alternatives (sizeOfAll items) items

end Compact

mutual

def Expr.compact : Expr → Compact
  | .empty => .empty
  | .chars set => .ofSet set
  | .look l => .look l
  | .repetition item least most isLazy => .ofRepetition item.compact least most isLazy
  | .capture item => .capture item.compact
  | .alternation items => .ofAlternatives (Expr.compactOf items)
  | .sequence items => .ofSequence (Expr.compactOf items)

def Expr.compactOf : List Expr → List Compact
  | [] => []
  | item :: rest => item.compact :: Expr.compactOf rest

end

end Verdict.Pattern
