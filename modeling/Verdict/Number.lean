import Verdict.Binary64.Shortest

set_option autoImplicit false

namespace Verdict

inductive Number where
  | int (value : Int) (fits : -0x8000000000000000 ≤ value ∧ value < 0x10000000000000000)
  | float (value : Binary64) (finite : value.isFinite = true)
deriving DecidableEq

namespace Number

def ofInt? (i : Int) : Option Number :=
  if h : -0x8000000000000000 ≤ i ∧ i < 0x10000000000000000 then some (.int i h) else none

def ofBinary64? (x : Binary64) : Option Number :=
  if h : x.isFinite = true then some (.float x h) else none

def zero : Number := .int 0 (by decide)

def one : Number := .int 1 (by decide)

def toBinary64 : Number → Binary64
  | .int i _ => .ofInt i
  | .float x _ => x

def intText (i : Int) : List Char :=
  if i < 0 then '-' :: Nat.toDigits 10 i.natAbs else Nat.toDigits 10 i.natAbs

def display : Number → List Char
  | .int i _ => intText i
  | .float x _ => x.write .plain

def write : Number → List Char
  | .int i _ => intText i
  | .float x _ => x.write .document

def same : Number → Number → Bool
  | .int i _, .int j _ => i == j
  | .float x _, .float y _ => x.key == y.key
  | .int .., .float .. | .float .., .int .. => false

end Number

end Verdict
