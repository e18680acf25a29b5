import Verdict.Datum.Display
import Verdict.Numeral

set_option autoImplicit false

namespace Verdict

inductive Scalar where
  | flag (b : Bool)
  | natural (n : Nat)
  | integer (i : Int)
  | real (x : Binary64)
  | nan
deriving DecidableEq

namespace Scalar

def integer? (text : List Char) : Option Int :=
  let (negative, digits) := Numeral.splitSign text
  if digits.isEmpty || !digits.all Char.isDigit then none
  else
    let n : Int := Numeral.decimalValue digits
    let i := if negative then -n else n
    if -0x8000000000000000 ≤ i ∧ i < 0x8000000000000000 then some i else none

def infinityWords : List (List Char) :=
  [['i', 'n', 'f'], ['i', 'n', 'f', 'i', 'n', 'i', 't', 'y']]

def real? (text : List Char) : Option Scalar :=
  let (negative, word) := Numeral.splitSign (text.map Char.toLower)
  if infinityWords.contains word then some (.real (.infinite negative))
  else if word = ['n', 'a', 'n'] then some .nan
  else (Numeral.decimal? text).map .real

def read? (text : List Char) : Option Scalar :=
  match text with
  | ['t', 'r', 'u', 'e'] => some (.flag true)
  | ['f', 'a', 'l', 's', 'e'] => some (.flag false)
  | text =>
      match Numeral.word? 64 10 text with
      | some n => some (.natural n)
      | none =>
          match integer? text with
          | some i => some (.integer i)
          | none => real? text

def text : Scalar → List Char
  | .flag b => Datum.boolText b
  | .natural n => Nat.toDigits 10 n
  | .integer i => Number.intText i
  | .real x => x.write .plain
  | .nan => ['N', 'a', 'N']

end Scalar

end Verdict
