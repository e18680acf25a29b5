import Verdict.Datum.Display
import Verdict.Rule.Node

set_option autoImplicit false

namespace Verdict

namespace LiteralKind

def name : LiteralKind → String
  | .int => "int"
  | .float => "float"
  | .string => "string"
  | .bool => "bool"
  | .ip => "ip"
  | .cidr => "cidr"
  | .bytes => "bytes"
  | .mac => "mac"
  | .null => "null"
  | .pattern => "unknown"
  | .other => "other"

def ofName (text : String) : LiteralKind :=
  match text with
  | "int" => .int
  | "float" => .float
  | "string" => .string
  | "bool" => .bool
  | "ip" => .ip
  | "cidr" => .cidr
  | "bytes" => .bytes
  | "mac" => .mac
  | "null" => .null
  | "unknown" => .pattern
  | _ => .other

end LiteralKind

namespace Literal

def replaceChar (c : Char) (replacement : List Char) (text : List Char) : List Char :=
  text.flatMap fun d => if d == c then replacement else [d]

def stringText (text : List Char) : List Char :=
  '"' :: replaceChar '"' ['\\', '"'] (replaceChar '\\' ['\\', '\\'] text) ++ ['"']

def hexPair (n : Nat) : List Char :=
  if n < 16 then '0' :: Nat.toDigits 16 n else Nat.toDigits 16 n

def byteText : Datum → List Char
  | .num (.int i _) => if 0 ≤ i then hexPair i.toNat else Number.intText i
  | d => d.display

def bytesText : Datum → List Char
  | .arr bytes => Text.joinWith [':'] (bytes.map byteText)
  | d => d.display

def numberText : Datum → List Char
  | .num n => n.write
  | d => d.display

def patternText : Datum → List Char
  | .str source =>
      match source.toList with
      | '/' :: rest => '/' :: rest
      | text => '/' :: text ++ ['/']
  | d => d.display

def text (kind : LiteralKind) (value : Datum) : List Char :=
  match value with
  | .null => Datum.nullText
  | value =>
      match kind with
      | .string => stringText value.display
      | .bool | .int | .float => numberText value
      | .bytes | .mac => bytesText value
      | .pattern => patternText value
      | .ip | .cidr | .null | .other => value.display

end Literal

end Verdict
