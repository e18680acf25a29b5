import Verdict.Datum.Basic
import Verdict.Text.Bytes

set_option autoImplicit false

namespace Verdict.Document

inductive ReadFault where
  | malformed
  | truncated
deriving DecidableEq

abbrev Reading (α : Type) := Except ReadFault (α × List Char)

def isBlank (c : Char) : Bool :=
  c == ' ' || c == '\n' || c == '\t' || c == '\r'

def skipBlanks (text : List Char) : List Char :=
  text.dropWhile isBlank

def hexValue? (c : Char) : Option Nat :=
  if c.isDigit then some (c.toNat - '0'.toNat)
  else if 'a' ≤ c ∧ c ≤ 'f' then some (c.toNat - 'a'.toNat + 10)
  else if 'A' ≤ c ∧ c ≤ 'F' then some (c.toNat - 'A'.toNat + 10)
  else none

def hexUnit? (a b c d : Char) : Option Nat :=
  match hexValue? a, hexValue? b, hexValue? c, hexValue? d with
  | some a, some b, some c, some d => some (((a * 16 + b) * 16 + c) * 16 + d)
  | _, _, _, _ => none

def readUnit (text : List Char) : Reading Nat :=
  match text with
  | a :: b :: c :: d :: rest =>
      match hexUnit? a b c d with
      | some n => .ok (n, rest)
      | none => .error .malformed
  | short =>
      if Text.byteLength short < 4 then .error .truncated else .error .malformed

def isHighUnit (n : Nat) : Bool := 0xd800 ≤ n && n ≤ 0xdbff

def isLowUnit (n : Nat) : Bool := 0xdc00 ≤ n && n ≤ 0xdfff

def pairScalar (high low : Nat) : Char :=
  Char.ofNat (0x10000 + (high - 0xd800) * 0x400 + (low - 0xdc00))

def readScalar (text : List Char) : Reading Char :=
  match readUnit text with
  | .error fault => .error fault
  | .ok (n, rest) =>
      if isLowUnit n then .error .malformed
      else if isHighUnit n then
        match rest with
        | [] | ['\\'] => .error .truncated
        | '\\' :: 'u' :: rest =>
            match readUnit rest with
            | .error fault => .error fault
            | .ok (m, rest) =>
                if isLowUnit m then .ok (pairScalar n m, rest) else .error .malformed
        | _ => .error .malformed
      else .ok (Char.ofNat n, rest)

def readEscape (text : List Char) : Reading Char :=
  match text with
  | [] => .error .truncated
  | '"' :: rest => .ok ('"', rest)
  | '\\' :: rest => .ok ('\\', rest)
  | '/' :: rest => .ok ('/', rest)
  | 'b' :: rest => .ok ('\x08', rest)
  | 'f' :: rest => .ok ('\x0c', rest)
  | 'n' :: rest => .ok ('\n', rest)
  | 'r' :: rest => .ok ('\r', rest)
  | 't' :: rest => .ok ('\t', rest)
  | 'u' :: rest => readScalar rest
  | _ => .error .malformed

def readQuoted : (fuel : Nat) → (read : List Char) → List Char → Reading String
  | 0, _, _ => .error .truncated
  | fuel + 1, read, text =>
      match text with
      | [] => .error .truncated
      | '"' :: rest => .ok (String.ofList read.reverse, rest)
      | '\\' :: rest =>
          match readEscape rest with
          | .ok (c, rest) => readQuoted fuel (c :: read) rest
          | .error fault => .error fault
      | c :: rest =>
          if c.toNat < 0x20 then .error .malformed else readQuoted fuel (c :: read) rest

def readString (text : List Char) : Reading String :=
  readQuoted (text.length + 1) [] text

def readWord (word : List Char) (text : List Char) : Except ReadFault (List Char) :=
  match word, text with
  | [], rest => .ok rest
  | _ :: _, [] => .error .truncated
  | w :: word, c :: rest => if w == c then readWord word rest else .error .malformed

/-- A significand kept below 2 ^ 64, and how many digits it took and left out. -/
structure Significand where
  value : Nat
  taken : Nat
  dropped : Nat

-- Digits are taken as long as the value fits; from the first that does not, all are left out.
def takeDigits : Nat → List Char → Significand
  | value, [] => ⟨value, 0, 0⟩
  | value, c :: rest =>
      let next := value * 10 + (c.toNat - '0'.toNat)
      if next < 0x10000000000000000 then
        let s := takeDigits next rest
        { s with taken := s.taken + 1 }
      else ⟨value, 0, rest.length + 1⟩

def powerOfTen (n : Nat) : Binary64 := Binary64.ofNat (tenTo n)

/-- A significand times a power of ten, each step rounded: one multiplication or division by a power
up to 10 ^ 308, and before it divisions by 10 ^ 308 while the exponent is below that range. After
three of these nothing is left of a 64-bit significand. There is no answer beyond the finite range. -/
def scale? : (steps : Nat) → Binary64 → Int → Option Binary64
  | steps, x, exponent =>
      if exponent.natAbs ≤ 308 then
        if 0 ≤ exponent then
          let y := x.mul (powerOfTen exponent.natAbs)
          if y.isFinite then some y else none
        else some (x.div (powerOfTen exponent.natAbs))
      else if x.rank = 0 then some x
      else if 0 ≤ exponent then none
      else match steps with
        | 0 => some .zero
        | steps + 1 => scale? steps (x.div (powerOfTen 308)) (exponent + 308)

def scaled (negative : Bool) (significand : Nat) (exponent : Int) : Except ReadFault Number :=
  match scale? 3 (Binary64.ofNat significand) exponent with
  | none => .error .malformed
  | some x =>
      match Number.ofBinary64? (if negative then x.neg else x) with
      | some n => .ok n
      | none => .error .malformed

def readExponent (negative : Bool) (significand : Nat) (start : Int) (text : List Char) :
    Reading Number :=
  let (down, text) := match text with
    | '+' :: rest => (false, rest)
    | '-' :: rest => (true, rest)
    | text => (false, text)
  let digits := text.takeWhile Char.isDigit
  let rest := text.dropWhile Char.isDigit
  if digits.isEmpty then
    .error (if rest.isEmpty then .truncated else .malformed)
  else
    let power := digits.foldl (fun value c => value * 10 + (c.toNat - '0'.toNat)) 0
    if power < 0x80000000 then
      (scaled negative significand (if down then start - power else start + power)).map (·, rest)
    else if significand ≠ 0 ∧ !down then .error .malformed
    else (scaled negative 0 0).map (·, rest)

def isExponentMark (c : Char) : Bool := c == 'e' || c == 'E'

def readPower (negative : Bool) (significand : Nat) (exponent : Int)
    (plain : Except ReadFault Number) (text : List Char) : Reading Number :=
  match text with
  | c :: rest =>
      if isExponentMark c then readExponent negative significand exponent rest
      else plain.map (·, text)
  | [] => plain.map (·, [])

def readFraction (negative : Bool) (whole : Significand) (text : List Char) : Reading Number :=
  let digits := text.takeWhile Char.isDigit
  let rest := text.dropWhile Char.isDigit
  if digits.isEmpty then
    .error (if rest.isEmpty then .truncated else .malformed)
  else
    let s := takeDigits whole.value digits
    let exponent : Int := (whole.dropped : Int) - s.taken
    readPower negative s.value exponent (scaled negative s.value exponent) rest

def wholeNumber (negative : Bool) (n : Nat) : Except ReadFault Number :=
  if !negative then
    match Number.ofInt? n with
    | some i => .ok i
    | none => .error .malformed
  else if 0 < n ∧ n ≤ 0x8000000000000000 then
    match Number.ofInt? (-n) with
    | some i => .ok i
    | none => .error .malformed
  else scaled true n 0

def readMagnitude (negative : Bool) (text : List Char) : Reading Number :=
  let rest := text.dropWhile Char.isDigit
  match text.takeWhile Char.isDigit with
  | [] => .error (if rest.isEmpty then .truncated else .malformed)
  | '0' :: _ :: _ => .error .malformed
  | digits =>
      let whole := takeDigits 0 digits
      match rest with
      | '.' :: rest => readFraction negative whole rest
      | rest =>
          let plain :=
            if whole.dropped = 0 then wholeNumber negative whole.value
            else scaled negative whole.value whole.dropped
          readPower negative whole.value whole.dropped plain rest

end Verdict.Document
