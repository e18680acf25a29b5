import Verdict.Settings.Toml.Scalar
import Verdict.Settings.Toml.Table

set_option autoImplicit false

namespace Verdict.Toml

abbrev Reading (α : Type) := Option (α × List Char)

def isBlank (c : Char) : Bool := c == ' ' || c == '\t'

def isControl (c : Char) : Bool := (c.toNat < 0x20 && c != '\t') || c.toNat == 0x7f

def skipBlanks (text : List Char) : List Char := text.dropWhile isBlank

def skipGaps : (comment : Bool) → List Char → Option (List Char)
  | _, [] => some []
  | _, '\n' :: rest => skipGaps false rest
  | _, '\r' :: '\n' :: rest => skipGaps false rest
  | true, c :: rest => if isControl c then none else skipGaps true rest
  | false, '#' :: rest => skipGaps true rest
  | false, c :: rest => if isBlank c then skipGaps false rest else some (c :: rest)

def ofCode? (digits : List Char) : Option Char :=
  match Numeral.digitsFrom? 16 0 digits with
  | some n => if n.isValidChar then some (Char.ofNat n) else none
  | none => none

def readCode (width : Nat) (text : List Char) : Reading Char :=
  if text.length < width then none
  else (ofCode? (text.take width)).map (·, text.drop width)

def readEscape : List Char → Reading Char
  | 'b' :: rest => some ('\x08', rest)
  | 't' :: rest => some ('\t', rest)
  | 'n' :: rest => some ('\n', rest)
  | 'f' :: rest => some ('\x0c', rest)
  | 'r' :: rest => some ('\r', rest)
  | 'e' :: rest => some ('\x1b', rest)
  | '"' :: rest => some ('"', rest)
  | '\\' :: rest => some ('\\', rest)
  | 'x' :: rest => readCode 2 rest
  | 'u' :: rest => readCode 4 rest
  | 'U' :: rest => readCode 8 rest
  | _ => none

def readBasic : (fuel : Nat) → (read : List Char) → List Char → Reading String
  | 0, _, _ => none
  | fuel + 1, read, text =>
      match text with
      | [] => none
      | '"' :: rest => some (String.ofList read.reverse, rest)
      | '\\' :: rest =>
          match readEscape rest with
          | some (c, rest) => readBasic fuel (c :: read) rest
          | none => none
      | c :: rest => if isControl c then none else readBasic fuel (c :: read) rest

def readLiteral : (read : List Char) → List Char → Reading String
  | _, [] => none
  | read, c :: rest =>
      if c == '\x27' then some (String.ofList read.reverse, rest)
      else if isControl c then none
      else readLiteral (c :: read) rest

def skipLineEnd : List Char → List Char
  | '\n' :: rest => rest
  | '\r' :: '\n' :: rest => rest
  | text => text

def closing? (quote : Char) (text : List Char) : Option (Nat × List Char) :=
  let run := (text.takeWhile (· == quote)).length
  if run < 3 then none else some (min run 5 - 3, text.drop (min run 5))

def closeLines (quote : Char) (read : List Char) (extra : Nat) : String :=
  String.ofList (read.reverse ++ List.replicate extra quote)

def isSpace (c : Char) : Bool := isBlank c || c == '\n' || c == '\r'

def skipFold? (text : List Char) : Option (List Char) :=
  match skipBlanks text with
  | '\n' :: rest => some (rest.dropWhile isSpace)
  | '\r' :: '\n' :: rest => some (rest.dropWhile isSpace)
  | _ => none

def readBasicLines : (fuel : Nat) → (read : List Char) → List Char → Reading String
  | 0, _, _ => none
  | fuel + 1, read, text =>
      match closing? '"' text with
      | some (extra, rest) => some (closeLines '"' read extra, rest)
      | none =>
          match text with
          | [] => none
          | '\n' :: rest => readBasicLines fuel ('\n' :: read) rest
          | '\r' :: '\n' :: rest => readBasicLines fuel ('\n' :: read) rest
          | '\\' :: rest =>
              match skipFold? rest with
              | some rest => readBasicLines fuel read rest
              | none =>
                  match readEscape rest with
                  | some (c, rest) => readBasicLines fuel (c :: read) rest
                  | none => none
          | c :: rest => if isControl c then none else readBasicLines fuel (c :: read) rest

def readLiteralLines : (fuel : Nat) → (read : List Char) → List Char → Reading String
  | 0, _, _ => none
  | fuel + 1, read, text =>
      match closing? '\x27' text with
      | some (extra, rest) => some (closeLines '\x27' read extra, rest)
      | none =>
          match text with
          | [] => none
          | '\n' :: rest => readLiteralLines fuel ('\n' :: read) rest
          | '\r' :: '\n' :: rest => readLiteralLines fuel ('\n' :: read) rest
          | c :: rest => if isControl c then none else readLiteralLines fuel (c :: read) rest

def readQuoted : List Char → Reading String
  | '"' :: rest => readBasic (rest.length + 1) [] rest
  | '\x27' :: rest => readLiteral [] rest
  | _ => none

def readText : List Char → Reading String
  | '"' :: '"' :: '"' :: rest => readBasicLines (rest.length + 1) [] (skipLineEnd rest)
  | '\x27' :: '\x27' :: '\x27' :: rest => readLiteralLines (rest.length + 1) [] (skipLineEnd rest)
  | text => readQuoted text

def isBare (c : Char) : Bool := c.isAlphanum || c == '_' || c == '-'

def isQuote (c : Char) : Bool := c == '"' || c == '\x27'

def readName (text : List Char) : Reading String :=
  match text with
  | [] => none
  | c :: _ =>
      if isQuote c then readQuoted text
      else if isBare c then some (String.ofList (text.takeWhile isBare), text.dropWhile isBare)
      else none

def readNames : (fuel : Nat) → List Char → Reading KeyPath
  | 0, _ => none
  | fuel + 1, text =>
      match readName (skipBlanks text) with
      | none => none
      | some (name, rest) =>
          match skipBlanks rest with
          | '.' :: rest =>
              (readNames fuel rest).map fun (path, rest) =>
                ({ path with parents := name :: path.parents }, rest)
          | rest => some (⟨[], name⟩, rest)

def readKey (text : List Char) : Reading KeyPath := readNames (text.length + 1) text

def readKeyMark (text : List Char) : Reading KeyPath :=
  match readKey text with
  | some (path, '=' :: rest) => some (path, skipBlanks rest)
  | _ => none

def isPlain (c : Char) : Bool := isBare c || c == '+' || c == '.' || c == ':'

def readScalar (text : List Char) : Reading Setting :=
  let plain := text.takeWhile isPlain
  match (date? plain), text.dropWhile isPlain with
  | some (_, []), ' ' :: c :: rest =>
      if c.isDigit then
        let time := (c :: rest).takeWhile isPlain
        (scalar? (plain ++ ' ' :: time)).map (·, (c :: rest).dropWhile isPlain)
      else (scalar? plain).map (·, ' ' :: c :: rest)
  | _, rest => (scalar? plain).map (·, rest)

mutual

def readValue : (fuel depth : Nat) → List Char → Reading Setting
  | 0, _, _ => none
  | fuel + 1, depth, text =>
      match text with
      | [] => none
      | '[' :: rest =>
          match depth with
          | 0 => none
          | depth + 1 => (readList fuel depth [] rest).map fun (xs, rest) => (.list xs, rest)
      | '{' :: rest =>
          match depth with
          | 0 => none
          | depth + 1 =>
              match readEntries fuel depth [] rest with
              | some (entries, rest) => (ofEntries? entries).map (·, rest)
              | none => none
      | c :: _ =>
          if isQuote c then (readText text).map fun (s, rest) => (.text s, rest)
          else readScalar text

def readList : (fuel depth : Nat) → List Setting → List Char → Reading (List Setting)
  | 0, _, _, _ => none
  | fuel + 1, depth, read, text =>
      match skipGaps false text with
      | some (']' :: rest) => some (read.reverse, rest)
      | some text =>
          match readValue fuel depth text with
          | none => none
          | some (s, rest) =>
              match skipGaps false rest with
              | some (']' :: rest) => some ((s :: read).reverse, rest)
              | some (',' :: rest) => readList fuel depth (s :: read) rest
              | _ => none
      | none => none

def readEntries : (fuel depth : Nat) → List (KeyPath × Setting) → List Char →
    Reading (List (KeyPath × Setting))
  | 0, _, _, _ => none
  | fuel + 1, depth, read, text =>
      match skipGaps false text with
      | some ('}' :: rest) => some (read.reverse, rest)
      | some text =>
          match readKeyMark text with
          | none => none
          | some (path, rest) =>
              match readValue fuel depth rest with
              | none => none
              | some (s, rest) =>
                  match skipGaps false rest with
                  | some ('}' :: rest) => some (((path, s) :: read).reverse, rest)
                  | some (',' :: rest) => readEntries fuel depth ((path, s) :: read) rest
                  | _ => none
      | none => none

end

def maxDepth : Nat := 80

def readHeader (text : List Char) : Reading Statement :=
  match text with
  | '[' :: rest =>
      match readKey rest with
      | some (path, ']' :: ']' :: rest) => some (.element path, rest)
      | _ => none
  | text =>
      match readKey text with
      | some (path, ']' :: rest) => some (.table path, rest)
      | _ => none

def readStatement (text : List Char) : Reading Statement :=
  match text with
  | '[' :: rest => readHeader rest
  | text =>
      match readKeyMark text with
      | some (path, rest) =>
          (readValue (rest.length + 1) maxDepth rest).map fun (s, rest) => (.entry path s, rest)
      | none => none

def endsLine (text : List Char) : Bool :=
  match skipBlanks text with
  | [] | '\n' :: _ | '\r' :: '\n' :: _ | '#' :: _ => true
  | _ => false

def readStatements : (fuel : Nat) → (read : List Statement) → List Char → Option (List Statement)
  | 0, _, _ => none
  | fuel + 1, read, text =>
      match skipGaps false text with
      | none => none
      | some [] => some read.reverse
      | some text =>
          match readStatement text with
          | some (statement, rest) =>
              if endsLine rest then readStatements fuel (statement :: read) rest else none
          | none => none

def skipMark : List Char → List Char
  | '\ufeff' :: rest => rest
  | text => text

def read? (text : List Char) : Option Setting :=
  (readStatements (text.length + 1) [] (skipMark text)).bind ofStatements?

end Verdict.Toml
