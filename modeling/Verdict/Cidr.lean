import Verdict.Numeral
import Verdict.Text.Search

set_option autoImplicit false

namespace Verdict.Cidr

def octet? (text : List Char) : Option Nat :=
  if text.all Char.isDigit then Numeral.word? 8 10 text else none

def address? (text : String) : Option Nat :=
  match Text.pieces '.' text.toList with
  | [a, b, c, d] =>
      match octet? a, octet? b, octet? c, octet? d with
      | some a, some b, some c, some d => some (((a * 256 + b) * 256 + c) * 256 + d)
      | _, _, _, _ => none
  | _ => none

-- A shift by the width of a word is a fault, and so is a difference below zero.
def shiftLeft? (x : BitVec 32) (n : Nat) : Option (BitVec 32) :=
  if n < 32 then some (x <<< n) else none

def difference? (m n : Nat) : Option Nat :=
  if n ≤ m then some (m - n) else none

def mask? (bits : Nat) : Option (BitVec 32) :=
  if bits = 0 then some 0 else (difference? 32 bits).bind (shiftLeft? (BitVec.allOnes 32))

def contains? (address network bits : Nat) : Option Bool :=
  (mask? bits).map fun mask => BitVec.ofNat 32 address &&& mask == BitVec.ofNat 32 network &&& mask

def inside? (ip cidr : String) : Option Bool :=
  match Text.cutAt? '/' cidr.toList with
  | none => some false
  | some (network, bits) =>
      match Numeral.word? 32 10 bits, address? ip, address? (String.ofList network) with
      | some bits, some address, some network =>
          if bits ≤ 32 then contains? address network bits else some false
      | _, _, _ => some false

def inside (ip cidr : String) : Bool := (inside? ip cidr).getD false

end Verdict.Cidr
