import Verdict.Datum.Display

set_option autoImplicit false

namespace Verdict.Document

def hexDigit (n : Nat) : Char :=
  if n < 10 then Char.ofNat ('0'.toNat + n) else Char.ofNat ('a'.toNat + (n - 10))

def escapeChar (c : Char) : List Char :=
  match c with
  | '"' => ['\\', '"']
  | '\\' => ['\\', '\\']
  | '\x08' => ['\\', 'b']
  | '\t' => ['\\', 't']
  | '\n' => ['\\', 'n']
  | '\x0c' => ['\\', 'f']
  | '\r' => ['\\', 'r']
  | c =>
      if c.toNat < 0x20 then
        ['\\', 'u', '0', '0', hexDigit (c.toNat / 16), hexDigit (c.toNat % 16)]
      else [c]

def quote (text : List Char) : List Char :=
  '"' :: text.flatMap escapeChar ++ ['"']

def member (key : String) (value : List Char) : List Char :=
  quote key.toList ++ ':' :: value

mutual

def write : Datum → List Char
  | .null => Datum.nullText
  | .bool b => Datum.boolText b
  | .num n => n.write
  | .str s => quote s.toList
  | .arr xs => '[' :: Text.joinWith [','] (writeEach xs) ++ [']']
  | .obj ms => '{' :: Text.joinWith [','] (writeMembers ms) ++ ['}']

def writeEach : List Datum → List (List Char)
  | [] => []
  | d :: rest => write d :: writeEach rest

def writeMembers : List (String × Datum) → List (List Char)
  | [] => []
  | (key, d) :: rest => member key (write d) :: writeMembers rest

end

end Verdict.Document
