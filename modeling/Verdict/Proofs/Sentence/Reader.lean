import Verdict.Proofs.Sentence.Legible

set_option autoImplicit false

namespace Verdict

namespace Sentence

abbrev Reader (α : Type) := List Char → Option (α × List Char)

def expect {α : Type} (c : Char) (a : α) : Reader α
  | [] => none
  | d :: rest => if d = c then some (a, rest) else none

def readQuoted : Reader (List Char)
  | [] | ['\\'] => none
  | '"' :: rest => some ([], rest)
  | '\\' :: c :: rest => (readQuoted rest).map fun (text, rest) => (c :: text, rest)
  | c :: rest => (readQuoted rest).map fun (text, rest) => (c :: text, rest)

def readPattern : Reader Sentence := fun text =>
  let source := String.ofList (text.takeWhile (· != '/'))
  expect '/' (.leaf (.pattern source)) (text.dropWhile (· != '/'))

def readInt (negative : Bool) : Reader Sentence := fun text =>
  let n : Int := Nat.ofDigitChars 10 (text.takeWhile Char.isDigit) 0
  some (.leaf (.int (if negative then -n else n)), text.dropWhile Char.isDigit)

-- Symbols between blanks; none begins another, since a blank ends each.
def readAmong {α : Type} (symbol : α → String) (choices : List α) : Reader α := fun text =>
  choices.findSome? fun a =>
    ((' ' :: (symbol a).toList ++ [' ']).isPrefixOf? text).map fun rest => (a, rest)

def readLink : Reader Link :=
  readAmong Link.symbol
    [.eq, .ne, .gt, .ge, .lt, .le, .contains, .matching, .isIn, .notContains, .notMatching, .notIn]

def readLogical : Reader Operator := readAmong Operator.symbol [.and, .or]

section Nested

variable (read : Reader Sentence)

def readItems (close : Char) : (fuel : Nat) → Reader (List Sentence)
  | 0, _ => none
  | fuel + 1, text =>
      match read text with
      | none => none
      | some (s, ',' :: ' ' :: rest) =>
          (readItems close fuel rest).map fun (more, rest) => (s :: more, rest)
      | some (s, rest) => expect close [s] rest

def readList (close : Char) : Reader (List Sentence)
  | [] => none
  | c :: rest =>
      if c = close then some ([], rest) else readItems read close (rest.length + 1) (c :: rest)

def readGroup : Reader Sentence := fun text => do
  let (left, rest) ← read text
  let (op, rest) ← readLogical rest
  let (right, rest) ← read rest
  expect ')' (.group op left right) rest

def readNegation : Reader Sentence := fun text => do
  let rest ← [' ', '('].isPrefixOf? text
  let (operand, rest) ← read rest
  expect ')' (.negation operand) rest

def readCallOrField (name : String) : Reader Sentence
  | '(' :: rest => (readList read ')' rest).map fun (args, rest) => (.call name args, rest)
  | rest => some (.leaf (.field name), rest)

def readNamedAs (name : String) : Reader Sentence := fun rest =>
  if name = "not" then readNegation read rest
  else if name = "true" then some (.leaf (.bool true), rest)
  else if name = "false" then some (.leaf (.bool false), rest)
  else if name = "null" then some (.leaf .null, rest)
  else readCallOrField read name rest

def readNamed : Reader Sentence := fun text =>
  readNamedAs read (String.ofList (text.takeWhile isNameChar)) (text.dropWhile isNameChar)

def readTerm : Reader Sentence
  | [] => none
  | '"' :: rest =>
      (readQuoted rest).map fun (text, rest) => (.leaf (.string (String.ofList text)), rest)
  | '/' :: rest => readPattern rest
  | '!' :: rest =>
      some (.denied (String.ofList (rest.takeWhile isNameChar)), rest.dropWhile isNameChar)
  | '-' :: rest => readInt true rest
  | '[' :: rest => (readList read ']' rest).map fun (elements, rest) => (.array elements, rest)
  | '(' :: rest => readGroup read rest
  | c :: rest => if c.isDigit then readInt false (c :: rest) else readNamed read (c :: rest)

end Nested

def readSentence : (fuel : Nat) → Reader Sentence
  | 0, _ => none
  | fuel + 1, text =>
      match readTerm (readSentence fuel) text with
      | none => none
      | some (first, rest) =>
          match readLink rest with
          | none => some (first, rest)
          | some (link, rest) =>
              (readSentence fuel rest).map fun (more, rest) => (.chain first link more, rest)

def ofPart? (text : List Char) : Option Sentence :=
  match readSentence (text.length + 1) text with
  | some (s, []) => some s
  | _ => none

/-- The sentence of a text that is a whole rule, where the outermost `and` or `or` stands open. -/
def ofRoot? (text : List Char) : Option Sentence :=
  match readSentence (text.length + 1) text with
  | none => none
  | some (s, []) => some s
  | some (left, rest) => do
      let (op, rest) ← readLogical rest
      let right ← ofPart? rest
      return .group op left right

end Sentence

end Verdict
