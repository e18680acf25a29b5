import Verdict.Evaluation.Event
import Verdict.Rule.Decode
import Verdict.Rule.Render

/-!
Rules: a tree together with the fields it refers to, and reading a rule from the text of its document.

The text is read from left to right, and the tag of the outermost node is looked at as soon as it is
met. A tag that is none is therefore reported even if the text breaks off later; anything else that
is wrong with the shape is found after the whole document has been read, but before the rest of the
text is looked at.
-/

set_option autoImplicit false

namespace Verdict

structure Rule where
  root : Node
  requiredFields : List String

namespace Rule

def ofNode (root : Node) : Rule := ⟨root, root.requiredFields⟩

def ofDatum (d : Datum) : Except ShapeFault Rule := (Node.decode .root d).map ofNode

def span (r : Rule) : Span := .eval r.requiredFields.length

def same (a b : Rule) : Bool := a.root.same b.root && a.requiredFields == b.requiredFields

def toJson (r : Rule) : String := r.root.toJson

def text (r : Rule) : String := r.root.render true

section Reading

open Document

abbrev RootReading (α : Type) := Except DecodeFault (α × List Char)

def unreadable {α : Type} (fault : ReadFault) : Except DecodeFault α := .error (.unreadable fault)

def misshapen {α : Type} (fault : ShapeFault) : Except DecodeFault α := .error (.shape fault)

def readTag (text : List Char) : RootReading Datum :=
  match skipBlanks text with
  | '[' :: _ => misshapen (.wrongType (.arr []) .tag)
  | '\x7b' :: _ => misshapen (.wrongType (.obj []) .tag)
  | text =>
      match readValue 1 0 text with
      | .error fault => unreadable fault
      | .ok (.str s, rest) => .ok (.str s, rest)
      | .ok (d, _) => misshapen (.wrongType d .tag)

def readRootValue (key : String) (fuel depth : Nat) (text : List Char) : RootReading Datum :=
  if key = Node.tagKey then readTag text
  else
    match readValue fuel depth text with
    | .error fault => unreadable fault
    | .ok (d, rest) => .ok (d, rest)

def readRootKey (tagSeen : Bool) (text : List Char) : RootReading String :=
  match skipBlanks text with
  | '"' :: rest =>
      match readString rest with
      | .error fault => unreadable fault
      | .ok (key, _) =>
          if tagSeen && key == Node.tagKey then misshapen (.duplicate key)
          else match readKey text with
            | .error fault => unreadable fault
            | .ok (key, rest) => .ok (key, rest)
  | _ =>
      match readKey text with
      | .error fault => unreadable fault
      | .ok (key, rest) => .ok (key, rest)

def readRootMembers : (fuel depth : Nat) → (tagSeen : Bool) → List (String × Datum) → List Char →
    RootReading (List (String × Datum))
  | 0, _, _, _, _ => unreadable .truncated
  | fuel + 1, depth, tagSeen, earlier, text =>
      match readRootKey tagSeen text with
      | .error fault => .error fault
      | .ok (key, rest) =>
          match readRootValue key fuel depth rest with
          | .error fault => .error fault
          | .ok (d, rest) =>
              match skipBlanks rest with
              | [] => unreadable .truncated
              | '\x7d' :: rest => .ok (((key, d) :: earlier).reverse, rest)
              | ',' :: rest =>
                  readRootMembers fuel depth (tagSeen || key == Node.tagKey)
                    ((key, d) :: earlier) rest
              | _ => unreadable .malformed

def readRootElements (fuel depth : Nat) (text : List Char) : RootReading (List Datum) :=
  match readTag text with
  | .error fault => .error fault
  | .ok (tag, rest) =>
      match skipBlanks rest with
      | [] => unreadable .truncated
      | ']' :: rest => .ok ([tag], rest)
      | ',' :: rest =>
          match readElements fuel depth [tag] rest with
          | .error fault => unreadable fault
          | .ok (elements, rest) => .ok (elements, rest)
      | _ => unreadable .malformed

def readRoot (text : List Char) : RootReading Datum :=
  let fuel := text.length + 1
  let depth := maxDepth - 1
  match skipBlanks text with
  | '\x7b' :: rest =>
      match skipBlanks rest with
      | '\x7d' :: rest => .ok (.obj [], rest)
      | rest => (readRootMembers fuel depth false [] rest).map fun (members, rest) => (.obj members, rest)
  | '[' :: rest =>
      match skipBlanks rest with
      | ']' :: rest => .ok (.arr [], rest)
      | rest => (readRootElements fuel depth rest).map fun (elements, rest) => (.arr elements, rest)
  | text =>
      match readValue fuel depth text with
      | .error fault => unreadable fault
      | .ok (d, rest) => .ok (d, rest)

def ofText (text : List Char) : Except DecodeFault Rule :=
  match readRoot text with
  | .error fault => .error fault
  | .ok (d, rest) =>
      match ofDatum d with
      | .error fault => misshapen fault
      | .ok rule => if isEnd rest then .ok rule else unreadable .malformed

def ofJson (json : String) : Except DecodeFault Rule := ofText json.toList

end Reading

end Rule

end Verdict
