import Verdict.Datum.Basic
import Verdict.Text.Search

set_option autoImplicit false

namespace Verdict

namespace Datum

def boolText (b : Bool) : List Char :=
  if b then ['t', 'r', 'u', 'e'] else ['f', 'a', 'l', 's', 'e']

def nullText : List Char := ['n', 'u', 'l', 'l']

mutual

def display : Datum → List Char
  | .null => nullText
  | .bool b => boolText b
  | .num n => n.display
  | .str s => s.toList
  | .arr xs => Text.joinWith [','] (displayEach xs)
  | .obj _ => "[object Object]".toList

def displayEach : List Datum → List (List Char)
  | [] => []
  | .null :: rest => [] :: displayEach rest
  | d :: rest => display d :: displayEach rest

end

def displayText (d : Datum) : String :=
  String.ofList d.display

end Datum

end Verdict
