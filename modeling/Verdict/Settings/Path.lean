import Verdict.Settings.Setting

set_option autoImplicit false

namespace Verdict.Setting

inductive Step where
  | member (name : String)
  -- counted from the end if negative
  | element (index : Int)

abbrev Path := List Step

namespace Path

def isNameChar (c : Char) : Bool := c.isAlphanum || c == '_' || c == '-'

def isBlank (c : Char) : Bool := c == ' ' || c == '\t'

def readIndex (text : List Char) : Option (Int × List Char) :=
  let text := text.dropWhile isBlank
  let (negative, text) := match text with
    | '-' :: rest => (true, rest)
    | text => (false, text)
  let digits := text.takeWhile Char.isDigit
  match (text.dropWhile Char.isDigit).dropWhile isBlank with
  | ']' :: rest =>
      let n : Int := Numeral.decimalValue digits
      let i := if negative then -n else n
      if digits.isEmpty || i < -0x8000000000000000 || 0x8000000000000000 ≤ i then none else some (i, rest)
  | _ => none

def readName (text : List Char) : Option (String × List Char) :=
  match text.takeWhile isNameChar with
  | [] => none
  | name => some (String.ofList name, text.dropWhile isNameChar)

def readSteps : (fuel : Nat) → List Char → Option Path
  | _, [] => some []
  | 0, _ => none
  | fuel + 1, '.' :: rest =>
      match readName rest with
      | some (name, rest) => (readSteps fuel rest).map (.member name :: ·)
      | none => none
  | fuel + 1, '[' :: rest =>
      match readIndex rest with
      | some (i, rest) => (readSteps fuel rest).map (.element i :: ·)
      | none => none
  | _, _ => none

def read? (text : List Char) : Option Path :=
  match readName text with
  | some (name, rest) => (readSteps text.length rest).map (.member name :: ·)
  | none => none

def ofKey (key : String) : Path := (read? key.toList).getD [.member key]

end Path

def updateMember (name : String) (f : Setting → Setting) :
    List (String × Setting) → List (String × Setting)
  | [] => [(name, f .vacant)]
  | (n, s) :: rest => if n = name then (n, f s) :: rest else (n, s) :: updateMember name f rest

def updateAt (f : Setting → Setting) : Nat → List Setting → List Setting
  | 0, [] => [f .vacant]
  | 0, s :: rest => f s :: rest
  | n + 1, [] => .vacant :: updateAt f n []
  | n + 1, s :: rest => s :: updateAt f n rest

def updateElement (index : Int) (f : Setting → Setting) (xs : List Setting) : List Setting :=
  if 0 ≤ index then updateAt f index.toNat xs
  else
    let fromEnd := index.natAbs
    updateAt f (xs.length - fromEnd) (List.replicate (fromEnd - xs.length) .vacant ++ xs)

def update (f : Setting → Setting) : Path → Setting → Setting
  | [], s => f s
  | .member name :: path, s => .table (updateMember name (update f path) s.members)
  | .element index :: path, s => .list (updateElement index (update f path) s.elements)

mutual

/-- A table is laid over what is there member by member; anything else replaces it. -/
def laidOver : Setting → Setting → Setting
  | .table ms, under => .table (laidOverMembers ms under.members)
  | s, _ => s

def laidOverMembers : List (String × Setting) → List (String × Setting) → List (String × Setting)
  | [], under => under
  | (name, s) :: rest, under => laidOverMembers rest (updateMember name s.laidOver under)

end

def layer (source : List (String × Setting)) (under : Setting) : Setting :=
  source.foldl (fun under (key, s) => update s.laidOver (Path.ofKey key) under) under

end Verdict.Setting
