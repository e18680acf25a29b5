import Verdict.Unicode.Fold

set_option autoImplicit false

namespace Verdict.Unicode

def foldMembers : Nat → List Nat → List Nat
  | n, [] => [n]
  | n, step :: steps => n :: foldMembers (n + step) steps

def readFoldClasses : Nat → List (List Char) → List (List Nat)
  | _, [] => []
  | before, word :: rest =>
      match (Text.pieces '+' word).map numberOf with
      | [] => readFoldClasses before rest
      | first :: steps => foldMembers (before + first) steps :: readFoldClasses (before + first) rest

def foldClasses : List (List Nat) := readFoldClasses 0 (words foldText)

def Ranges.foldCase (ranges : Ranges) : Ranges :=
  let members := ranges.index
  let added := foldClasses.flatMap fun cls =>
    if cls.any members.contains then cls.map fun n => (n, n) else []
  if added.isEmpty then ranges else Ranges.ofList (ranges ++ added)

def Ranges.foldAscii (ranges : Ranges) : Ranges :=
  let added := (List.range 26).flatMap fun i =>
    if ranges.contains (0x41 + i) || ranges.contains (0x61 + i) then
      [(0x41 + i, 0x41 + i), (0x61 + i, 0x61 + i)]
    else []
  if added.isEmpty then ranges else Ranges.ofList (ranges ++ added)

end Verdict.Unicode
