import Verdict.Binary64.Basic
import Verdict.Text.Blank

set_option autoImplicit false

namespace Verdict.Numeral

def digitValue? (radix : Nat) (c : Char) : Option Nat :=
  let v :=
    if c.isDigit then c.toNat - '0'.toNat
    else if 'a' ≤ c ∧ c ≤ 'z' then c.toNat - 'a'.toNat + 10
    else if 'A' ≤ c ∧ c ≤ 'Z' then c.toNat - 'A'.toNat + 10
    else 36
  if v < radix then some v else none

def digitsFrom? (radix : Nat) : Nat → List Char → Option Nat
  | value, [] => some value
  | value, c :: rest =>
      match digitValue? radix c with
      | some d => digitsFrom? radix (value * radix + d) rest
      | none => none

def unsigned? (radix : Nat) : List Char → Option Nat
  | [] | ['+'] => none
  | '+' :: digits => digitsFrom? radix 0 digits
  | digits => digitsFrom? radix 0 digits

def word? (bits radix : Nat) (text : List Char) : Option Nat :=
  (unsigned? radix text).filter (· < twoTo bits)

def decimalValue (digits : List Char) : Nat :=
  digits.foldl (fun value c => value * 10 + (c.toNat - '0'.toNat)) 0

def splitSign : List Char → Bool × List Char
  | '-' :: rest => (true, rest)
  | '+' :: rest => (false, rest)
  | text => (false, text)

def exponent? : List Char → Option Int
  | [] => some 0
  | c :: rest =>
      if c == 'e' || c == 'E' then
        let (negative, digits) := splitSign rest
        if digits.isEmpty || !digits.all Char.isDigit then none
        else
          let power : Int := decimalValue digits
          some (if negative then -power else power)
      else none

def decimal? (text : List Char) : Option Binary64 :=
  let (negative, body) := splitSign text
  let whole := body.takeWhile Char.isDigit
  let afterWhole := body.dropWhile Char.isDigit
  let (fraction, tail) := match afterWhole with
    | '.' :: rest => (rest.takeWhile Char.isDigit, rest.dropWhile Char.isDigit)
    | _ => ([], afterWhole)
  if whole.isEmpty && fraction.isEmpty then none
  else (exponent? tail).map fun power =>
    Binary64.ofDecimal negative (decimalValue (whole ++ fraction)) (power - fraction.length)

def radixOf? : Char → Option Nat
  | 'x' | 'X' => some 16
  | 'o' | 'O' => some 8
  | 'b' | 'B' => some 2
  | _ => none

def infinity? (text : List Char) : Option Binary64 :=
  if text = "Infinity".toList ∨ text = "+Infinity".toList then some (.infinite false)
  else if text = "-Infinity".toList then some (.infinite true)
  else none

/-- The number a trimmed text stands for. -/
def readTrimmed? : List Char → Option Binary64
  | [] => some .zero
  | '0' :: c :: digits =>
      match radixOf? c with
      | some radix => (word? 64 radix digits).map Binary64.ofNat
      | none => decimal? ('0' :: c :: digits)
  | text => (infinity? text).or (decimal? text)

def read? (text : String) : Option Binary64 :=
  readTrimmed? (Text.trim text.toList)

end Verdict.Numeral
