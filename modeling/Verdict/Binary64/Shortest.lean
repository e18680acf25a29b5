import Verdict.Binary64.Basic

set_option autoImplicit false

namespace Verdict

namespace Binary64

inductive Tie where
  | up | even
deriving DecidableEq

/-- The reals that round to a rank, doubled and in units of 2 ^ -1074. -/
structure Interval where
  low : Nat
  high : Nat
  closed : Bool

def roundingInterval (rank : Nat) : Interval where
  low := units (rank - 1) + units rank
  high := units rank + units (rank + 1)
  closed := rank % 2 = 0

namespace Interval

def holds (i : Interval) (num den : Nat) : Bool :=
  if i.closed then i.low * den ≤ num && num ≤ i.high * den
  else i.low * den < num && num < i.high * den

end Interval

def decimalWidth (n : Nat) : Nat :=
  let guess := Nat.log2 n * 30103 / 100000
  if n < tenTo guess then guess
  else if n < tenTo (guess + 1) then guess + 1
  else guess + 2

def decimalScale (rank : Nat) : Int :=
  decimalWidth (units rank * tenTo 400 / twoTo 1074) - 400

structure Decimal where
  digits : Nat
  exponent : Int
deriving DecidableEq

/-- The hit nearest to the magnitude on the grid of multiples of 10 ^ exponent, if there is one. -/
def onGrid? (tie : Tie) (rank : Nat) (exponent : Int) : Option Decimal :=
  -- magnitude = num / den grid steps
  let num := units rank * tenTo (-exponent).toNat
  let den := twoTo 1074 * tenTo exponent.toNat
  let below := num / den
  let inside (m : Nat) : Bool :=
    (roundingInterval rank).holds
      (m * tenTo exponent.toNat * twoTo 1075) (tenTo (-exponent).toNat)
  let twice := 2 * (num % den)
  match inside below, inside (below + 1) with
  | false, false => none
  | true, false => some ⟨below, exponent⟩
  | false, true => some ⟨below + 1, exponent⟩
  | true, true =>
      if twice < den then some ⟨below, exponent⟩
      else if den < twice then some ⟨below + 1, exponent⟩
      else match tie with
        | .up => some ⟨below + 1, exponent⟩
        | .even => some ⟨below + below % 2, exponent⟩

-- Seventeen digits always suffice; the fallback is never reached.
def search (tie : Tie) (rank : Nat) (scale : Int) : (grids : Nat) → (places : Nat) → Decimal
  | 0, _ => ⟨units rank / twoTo 1074, 0⟩
  | grids + 1, places =>
      match onGrid? tie rank (scale - places) with
      | some d => d
      | none => search tie rank scale grids (places + 1)

def shortest (tie : Tie) (rank : Nat) : Decimal :=
  search tie rank (decimalScale rank) 17 1

structure Figures where
  digits : List Char
  point : Int

def Decimal.figures (d : Decimal) : Figures :=
  let all := Nat.toDigits 10 d.digits
  { digits := (all.reverse.dropWhile (· == '0')).reverse
    point := all.length + d.exponent }

structure Layout where
  tie : Tie
  -- the point positions written without an exponent
  positional : Int → Bool
  -- what follows an integer
  integerTail : List Char
  infinity : List Char

def positionalText (tail : List Char) (f : Figures) : List Char :=
  if f.point ≤ 0 then
    '0' :: '.' :: (List.replicate (-f.point).toNat '0' ++ f.digits)
  else if f.digits.length ≤ f.point.toNat then
    f.digits ++ List.replicate (f.point.toNat - f.digits.length) '0' ++ tail
  else
    f.digits.take f.point.toNat ++ '.' :: f.digits.drop f.point.toNat

def exponentText (f : Figures) : List Char :=
  let power := f.point - 1
  let mantissa := match f.digits with
    | [] => ['0']
    | [d] => [d]
    | d :: rest => d :: '.' :: rest
  mantissa ++ 'e' :: (if power < 0 then '-' else '+') :: Nat.toDigits 10 power.natAbs

def magnitudeText (layout : Layout) (rank : Nat) : List Char :=
  if rank = 0 then '0' :: layout.integerTail
  else if rank = infiniteRank then layout.infinity
  else
    let f := (shortest layout.tie rank).figures
    if layout.positional f.point then positionalText layout.integerTail f else exponentText f

def write (layout : Layout) (x : Binary64) : List Char :=
  let magnitude := magnitudeText layout x.rank
  if x.negative then '-' :: magnitude else magnitude

def Layout.plain : Layout where
  tie := .up
  positional := fun _ => true
  integerTail := []
  infinity := ['i', 'n', 'f']

/-- Values in documents: an exponent below 1e-5 and from 1e16 on, always a fraction otherwise. -/
def Layout.document : Layout where
  tie := .even
  positional := fun point => -4 ≤ point && point ≤ 16
  integerTail := ['.', '0']
  infinity := []

end Binary64

end Verdict
