import Verdict.Settings.Path

set_option autoImplicit false

namespace Verdict.Environment

def lowerChar (c : Char) : Char := if c == '\u212a' then 'k' else c.toLower

def opening : List Char := "rulekit_".toList

def dotted : List Char → List Char
  | '_' :: '_' :: rest => '.' :: dotted rest
  | c :: rest => c :: dotted rest
  | [] => []

def key? (name : String) : Option String :=
  let name := name.toList.map lowerChar
  if opening.isPrefixOf name then some (String.ofList (dotted (name.drop opening.length))) else none

def setting (text : String) : Setting :=
  let cs := text.toList
  if Setting.lower cs = Datum.boolText true then .flag true
  else if Setting.lower cs = Datum.boolText false then .flag false
  else match Scalar.integer? cs with
    | some i => .integer i
    | none =>
        match Scalar.real? cs with
        | some s => .ofScalar s
        | none => .text text

def settings (vars : List (String × String)) : List (String × Setting) :=
  vars.filterMap fun (name, text) => (key? name).map (·, setting text)

end Verdict.Environment
