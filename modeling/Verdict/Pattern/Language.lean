import Verdict.Datum.Compare
import Verdict.Pattern.Extent
import Verdict.Pattern.Program
import Verdict.Pattern.Reader

set_option autoImplicit false

namespace Verdict.Pattern

def compact? (pattern : List Char) : Option Compact :=
  ((Tree.read? pattern).bind Tree.expr?).map Expr.compact

def machine? (pattern : List Char) : Option Machine :=
  match compact? pattern with
  | some e => if e.fits then some e.machine else none
  | none => none

def language : Datum.Patterns := fun source => (machine? source.toList).map Machine.search

mutual

def Compact.needsWords : Compact → Bool
  | .look (.word isUnicode _) => isUnicode
  | .empty | .text _ | .chars _ | .look _ => false
  | .repetition item _ _ _ | .capture item => item.needsWords
  | .alternation items | .sequence items => Compact.needWords items

def Compact.needWords : List Compact → Bool
  | [] => false
  | item :: rest => item.needsWords || Compact.needWords rest

end

def isRegular (pattern : List Char) : Bool :=
  match compact? pattern with
  | some e => !e.needsWords
  | none => false

end Verdict.Pattern
