set_option autoImplicit false

namespace Verdict.Text

def byteLength : List Char → Nat
  | [] => 0
  | c :: rest => c.utf8Size + byteLength rest

def takeBytes : Nat → List Char → List Char
  | 0, _ => []
  | _, [] => []
  | n, c :: rest => c :: takeBytes (n - c.utf8Size) rest

def dropBytes : Nat → List Char → List Char
  | 0, text => text
  | _, [] => []
  | n, c :: rest => dropBytes (n - c.utf8Size) rest

end Verdict.Text
