import Verdict.Document.Scalar

set_option autoImplicit false

namespace Verdict.Document

def maxDepth : Nat := 127

def readKey (text : List Char) : Reading String :=
  match skipBlanks text with
  | [] => .error .truncated
  | '"' :: rest =>
      match readString rest with
      | .error fault => .error fault
      | .ok (key, rest) =>
          match skipBlanks rest with
          | [] => .error .truncated
          | ':' :: rest => .ok (key, rest)
          | _ => .error .malformed
  | _ => .error .malformed

mutual

def readValue : (fuel depth : Nat) → List Char → Reading Datum
  | 0, _, _ => .error .truncated
  | fuel + 1, depth, text =>
      match skipBlanks text with
      | [] => .error .truncated
      | 'n' :: rest => (readWord ['u', 'l', 'l'] rest).map (.null, ·)
      | 't' :: rest => (readWord ['r', 'u', 'e'] rest).map (.bool true, ·)
      | 'f' :: rest => (readWord ['a', 'l', 's', 'e'] rest).map (.bool false, ·)
      | '"' :: rest => (readString rest).map fun (s, rest) => (.str s, rest)
      | '-' :: rest => (readMagnitude true rest).map fun (n, rest) => (.num n, rest)
      | '[' :: rest =>
          match depth with
          | 0 => .error .malformed
          | depth + 1 =>
              match skipBlanks rest with
              | ']' :: rest => .ok (.arr [], rest)
              | rest => (readElements fuel depth [] rest).map fun (xs, rest) => (.arr xs, rest)
      | '{' :: rest =>
          match depth with
          | 0 => .error .malformed
          | depth + 1 =>
              match skipBlanks rest with
              | '}' :: rest => .ok (.obj [], rest)
              | rest => (readMembers fuel depth [] rest).map fun (ms, rest) => (.obj ms, rest)
      | c :: rest =>
          if c.isDigit then (readMagnitude false (c :: rest)).map fun (n, rest) => (.num n, rest)
          else .error .malformed

def readElements : (fuel depth : Nat) → List Datum → List Char → Reading (List Datum)
  | 0, _, _, _ => .error .truncated
  | fuel + 1, depth, read, text =>
      match readValue fuel depth text with
      | .error fault => .error fault
      | .ok (d, rest) =>
          match skipBlanks rest with
          | [] => .error .truncated
          | ']' :: rest => .ok ((d :: read).reverse, rest)
          | ',' :: rest => readElements fuel depth (d :: read) rest
          | _ => .error .malformed

def readMembers : (fuel depth : Nat) → List (String × Datum) → List Char →
    Reading (List (String × Datum))
  | 0, _, _, _ => .error .truncated
  | fuel + 1, depth, read, text =>
      match readKey text with
      | .error fault => .error fault
      | .ok (key, rest) =>
          match readValue fuel depth rest with
          | .error fault => .error fault
          | .ok (d, rest) =>
              match skipBlanks rest with
              | [] => .error .truncated
              | '}' :: rest => .ok (((key, d) :: read).reverse, rest)
              | ',' :: rest => readMembers fuel depth ((key, d) :: read) rest
              | _ => .error .malformed

end

def isEnd (text : List Char) : Bool := (skipBlanks text).isEmpty

def read (text : List Char) : Except ReadFault Datum :=
  match readValue (text.length + 1) maxDepth text with
  | .error fault => .error fault
  | .ok (d, rest) => if isEnd rest then .ok d else .error .malformed

end Verdict.Document
