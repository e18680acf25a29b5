import Verdict.Text.Search

set_option autoImplicit false

namespace Verdict.Unicode

abbrev Ranges := List (Nat × Nat)

def digitValue (c : Char) : Nat :=
  if c.isDigit then c.toNat - '0'.toNat else c.toNat - 'a'.toNat + 10

def words (text : String) : List (List Char) :=
  let blanked := text.toList.map fun c => if c == '\n' then ' ' else c
  (Text.pieces ' ' blanked).filter fun word => !word.isEmpty

def numberOf (word : List Char) : Nat :=
  word.foldl (fun value c => value * 36 + digitValue c) 0

def rangesFrom : Nat → List Nat → Ranges
  | start, gap :: span :: rest =>
      (start + gap, start + gap + span) :: rangesFrom (start + gap + span + 1) rest
  | _, _ => []

def readRanges (text : String) : Ranges :=
  rangesFrom 0 ((words text).map numberOf)

namespace Ranges

def lastCode : Nat := 0x10ffff

def full : Ranges := [(0, lastCode)]

def mergeFrom : Nat × Nat → Ranges → Ranges
  | range, [] => [range]
  | range, next :: rest =>
      if next.1 ≤ range.2 + 1 then mergeFrom (range.1, max range.2 next.2) rest
      else range :: mergeFrom next rest

def merge : Ranges → Ranges
  | [] => []
  | range :: rest => mergeFrom range rest

def ofList (ranges : List (Nat × Nat)) : Ranges :=
  merge (ranges.mergeSort fun a b => a.1 ≤ b.1)

def union (a b : Ranges) : Ranges := ofList (a ++ b)

def complementFrom : Nat → Ranges → Ranges
  | start, [] => if start ≤ lastCode then [(start, lastCode)] else []
  | start, (low, high) :: rest =>
      if start < low then (start, low - 1) :: complementFrom (high + 1) rest
      else complementFrom (high + 1) rest

def complement (ranges : Ranges) : Ranges := complementFrom 0 ranges

def inter (a b : Ranges) : Ranges := complement (union (complement a) (complement b))

def diff (a b : Ranges) : Ranges := inter a (complement b)

def symmDiff (a b : Ranges) : Ranges := union (diff a b) (diff b a)

def characters (ranges : Ranges) : Ranges :=
  ranges.flatMap fun (low, high) =>
    if high < 0xd800 || 0xdfff < low then [(low, high)]
    else (if low < 0xd800 then [(low, 0xd7ff)] else [])
      ++ (if 0xdfff < high then [(0xe000, high)] else [])

def contains (ranges : Ranges) (n : Nat) : Bool :=
  ranges.any fun (low, high) => low ≤ n && n ≤ high

structure Index where
  ranges : Array (Nat × Nat)

def index (ranges : Ranges) : Index := ⟨ranges.toArray⟩

def Index.search (i : Index) (n : Nat) : (fuel low high : Nat) → Bool
  | 0, _, _ => false
  | fuel + 1, low, high =>
      if low < high then
        let middle := (low + high) / 2
        match i.ranges[middle]? with
        | none => false
        | some (first, last) =>
            if n < first then i.search n fuel low middle
            else if last < n then i.search n fuel (middle + 1) high
            else true
      else false

def Index.contains (i : Index) (n : Nat) : Bool :=
  i.search n (i.ranges.size + 1) 0 i.ranges.size

end Ranges

end Verdict.Unicode
