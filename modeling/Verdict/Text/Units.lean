set_option autoImplicit false

namespace Verdict.Text

def charUnits (c : Char) : List Nat :=
  let n := c.toNat
  if n < 0x10000 then [n]
  else [0xd800 + (n - 0x10000) / 0x400, 0xdc00 + (n - 0x10000) % 0x400]

def units (text : List Char) : List Nat :=
  text.flatMap charUnits

def compareUnits (a b : String) : Ordering :=
  compare (units a.toList) (units b.toList)

end Verdict.Text
