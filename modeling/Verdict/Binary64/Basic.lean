/-!
Numbers of the 64-bit binary interchange format, NaN left out. A number is a sign and the rank of
its magnitude in the ascending list of all magnitudes, which is also the low 63 bits of its encoding:
rounding is a search for the nearest rank, and order is the order of signed ranks.
-/

set_option autoImplicit false

namespace Verdict

abbrev twoTo (n : Nat) : Nat := Nat.pow 2 n

abbrev tenTo (n : Nat) : Nat := Nat.pow 10 n

-- Rank 0 is zero, rank 1 the least positive magnitude.
structure Binary64 where
  negative : Bool
  rank : Nat
  rank_le : rank ≤ 0x7ff0000000000000
deriving DecidableEq

namespace Binary64

def infiniteRank : Nat := 0x7ff0000000000000

def binade : Nat := 0x10000000000000

def isFinite (x : Binary64) : Bool := x.rank < infiniteRank

def zero : Binary64 := ⟨false, 0, by decide⟩

def infinite (negative : Bool) : Binary64 := ⟨negative, infiniteRank, by decide⟩

def neg (x : Binary64) : Binary64 := { x with negative := !x.negative }

def key (x : Binary64) : Int :=
  if x.negative then -(x.rank : Int) else x.rank

def bits (x : Binary64) : Nat :=
  (if x.negative then twoTo 63 else 0) + x.rank

def ofBits? (bits : Nat) : Option Binary64 :=
  if h : bits % twoTo 63 ≤ infiniteRank then
    some ⟨bits / twoTo 63 % 2 == 1, bits % twoTo 63, h⟩
  else
    none

def units (rank : Nat) : Nat :=
  if rank < binade then rank
  else (binade + rank % binade) * twoTo (rank / binade - 1)

def roundDiv (num den : Nat) : Nat :=
  let q := num / den
  let twice := 2 * (num % den)
  if twice < den then q
  else if twice = den then q + q % 2
  else q + 1

/-- The rank nearest to `num / den` units, before the cut at infinity.

A quotient with more than 53 significant bits is first brought to 53 by a shift; each shift by one
moves up one binade, and a significand that rounds up to 2 ^ 53 lands on the next binade's first rank. -/
def nearestRank (num den : Nat) : Nat :=
  let shift := Nat.log2 (num / den) - 52
  shift * binade + roundDiv num (den * twoTo shift)

def ofUnits (negative : Bool) (num den : Nat) : Binary64 :=
  ⟨negative, min (nearestRank num den) infiniteRank, Nat.min_le_right _ _⟩

def ofRatio (negative : Bool) (num den : Nat) : Binary64 :=
  ofUnits negative (num * twoTo 1074) den

def ofNat (n : Nat) : Binary64 := ofRatio false n 1

def ofInt (i : Int) : Binary64 := ofRatio (i < 0) i.natAbs 1

def mul (x y : Binary64) : Binary64 :=
  ofUnits (x.negative != y.negative) (units x.rank * units y.rank) (twoTo 1074)

def div (x y : Binary64) : Binary64 :=
  ofRatio (x.negative != y.negative) (units x.rank) (units y.rank)

/-- The number nearest to `digits * 10 ^ exponent`.

Outside 10 ^ -400 to 10 ^ 400 the answer is zero or infinity, so no larger power is computed. -/
def ofDecimal (negative : Bool) (digits : Nat) (exponent : Int) : Binary64 :=
  let width : Int := Nat.log2 digits
  if digits = 0 then ⟨negative, 0, Nat.zero_le _⟩
  else if exponent > 400 then infinite negative
  else if exponent * 3 + width < -1600 then ⟨negative, 0, Nat.zero_le _⟩
  else ofRatio negative (digits * tenTo exponent.toNat) (tenTo (-exponent).toNat)

def roundAway (x : Binary64) : Int :=
  let magnitude : Nat := (2 * units x.rank + twoTo 1074) / twoTo 1075
  if x.negative then -(magnitude : Int) else magnitude

end Binary64

end Verdict
