import Verdict.Unicode.Ranges

set_option autoImplicit false

namespace Verdict.Pattern

open Unicode (Ranges)

abbrev ByteRange := UInt8 × UInt8

abbrev ByteRun := List ByteRange

def unitCut? (low high unit : Nat) : Option Nat :=
  if low / unit == high / unit then none
  else if low % unit != 0 then some (low / unit * unit + unit - 1)
  else if (high + 1) % unit != 0 then some (high / unit * unit - 1)
  else none

def cut? (low high : Nat) : Option Nat :=
  match [0x7f, 0x7ff, 0xffff].find? fun last => low ≤ last && last < high with
  | some last => some last
  | none =>
      if high < 0x80 then none
      else [0x40, 0x1000, 0x40000].findSome? (unitCut? low high)

def cutRange (low high : Nat) : Ranges :=
  match cut? low high with
  | none => [(low, high)]
  | some last =>
      if low ≤ last ∧ last < high then cutRange low last ++ cutRange (last + 1) high
      else [(low, high)]
termination_by high - low

def byteRun (range : Nat × Nat) : ByteRun :=
  (String.utf8EncodeChar (Char.ofNat range.1)).zip (String.utf8EncodeChar (Char.ofNat range.2))

def byteRuns (set : Ranges) : List ByteRun :=
  set.flatMap fun (low, high) => (cutRange low high).map byteRun

end Verdict.Pattern
