import Verdict.Number

/-!
Data of the rule language. The same type holds a document as it was written, with its members in
order and repeated, and the value it denotes, with its members sorted and each key once;
`canonical` takes the first to the second.
-/

set_option autoImplicit false

namespace Verdict

inductive Datum where
  | null
  | bool (value : Bool)
  | num (value : Number)
  | str (value : String)
  | arr (elements : List Datum)
  | obj (members : List (String × Datum))

instance : Inhabited Datum := ⟨.null⟩

namespace Datum

def ofInt (i : Int) : Datum :=
  match Number.ofInt? i with
  | some n => .num n
  | none => .null

def insertUnder (key : String) (value : Datum) : List (String × Datum) → List (String × Datum)
  | [] => [(key, value)]
  | (k, v) :: rest =>
      if key < k then (key, value) :: (k, v) :: rest
      else if key = k then (k, v) :: rest
      else (k, v) :: insertUnder key value rest

mutual

def canonical : Datum → Datum
  | .null => .null
  | .bool b => .bool b
  | .num n => .num n
  | .str s => .str s
  | .arr xs => .arr (canonicalList xs)
  | .obj ms => .obj (canonicalMembers ms)

def canonicalList : List Datum → List Datum
  | [] => []
  | d :: rest => canonical d :: canonicalList rest

def canonicalMembers : List (String × Datum) → List (String × Datum)
  | [] => []
  | (key, d) :: rest => insertUnder key (canonical d) (canonicalMembers rest)

end

mutual

/-- Equality that keeps integers and floats apart, on canonical data. -/
def same : Datum → Datum → Bool
  | .null, .null => true
  | .bool a, .bool b => a == b
  | .num a, .num b => a.same b
  | .str a, .str b => a == b
  | .arr xs, .arr ys => sameList xs ys
  | .obj ms, .obj ns => sameMembers ms ns
  | _, _ => false

def sameList : List Datum → List Datum → Bool
  | [], [] => true
  | x :: xs, y :: ys => same x y && sameList xs ys
  | _, _ => false

def sameMembers : List (String × Datum) → List (String × Datum) → Bool
  | [], [] => true
  | (k, x) :: xs, (l, y) :: ys => k == l && same x y && sameMembers xs ys
  | _, _ => false

end

def isZero : Datum → Bool
  | .null => true
  | .bool b => !b
  | .num n => n.toBinary64.key == 0
  | .str s => s.isEmpty
  | .arr xs => xs.isEmpty
  | .obj ms => ms.isEmpty

end Datum

end Verdict
