import Verdict.Settings.Setting

set_option autoImplicit false

namespace Verdict.Toml

def digits? (isDigit : Char → Bool) : List Char → Option (List Char)
  | [] => none
  | [c] => if isDigit c then some [c] else none
  | c :: '_' :: rest => if isDigit c then (digits? isDigit rest).map (c :: ·) else none
  | c :: rest => if isDigit c then (digits? isDigit rest).map (c :: ·) else none

def whole? (text : List Char) : Option (List Char) :=
  match digits? Char.isDigit text with
  | some ('0' :: _ :: _) => none
  | digits => digits

def hasRadix (radix : Nat) (c : Char) : Bool := (Numeral.digitValue? radix c).isSome

def integer (negative : Bool) (n : Nat) : Option Setting :=
  let i : Int := if negative then -n else n
  if -0x8000000000000000 ≤ i ∧ i < 0x8000000000000000 then some (.integer i) else none

def radixInteger? (radix : Nat) (text : List Char) : Option Setting :=
  match (digits? (hasRadix radix) text).bind (Numeral.digitsFrom? radix 0) with
  | some n => integer false n
  | none => none

def power? (text : List Char) : Option Int :=
  let (negative, digits) := Numeral.splitSign text
  (digits? Char.isDigit digits).map fun digits =>
    let n : Int := Numeral.decimalValue digits
    if negative then -n else n

def finite? (x : Binary64) : Option Setting := if x.isFinite then some (.real x) else none

def float? (negative : Bool) (whole : List Char) (fraction : Option (List Char))
    (power : Option (List Char)) : Option Setting := do
  let whole ← whole? whole
  let fraction ← match fraction with
    | some text => digits? Char.isDigit text
    | none => some []
  let power ← match power with
    | some text => power? text
    | none => some 0
  finite? (.ofDecimal negative (Numeral.decimalValue (whole ++ fraction)) (power - fraction.length))

def isPowerMark (c : Char) : Bool := c == 'e' || c == 'E'

def decimal? (negative : Bool) (text : List Char) : Option Setting :=
  let mantissa := text.takeWhile (!isPowerMark ·)
  let power := match text.dropWhile (!isPowerMark ·) with
    | [] => none
    | _ :: rest => some rest
  match mantissa.dropWhile (· != '.'), power with
  | [], none =>
      match whole? mantissa with
      | some digits => integer negative (Numeral.decimalValue digits)
      | none => none
  | [], power => float? negative mantissa none power
  | _ :: fraction, power => float? negative (mantissa.takeWhile (· != '.')) (some fraction) power

def number? (negative : Bool) : List Char → Option Setting
  | ['i', 'n', 'f'] => some (.real (.infinite negative))
  | ['n', 'a', 'n'] => some .nan
  | text => decimal? negative text

def pairValue (a b : Char) : Nat := Numeral.decimalValue [a, b]

def two? (bound : Nat) : List Char → Option (List Char × List Char)
  | a :: b :: rest =>
      if a.isDigit && b.isDigit && pairValue a b < bound then some ([a, b], rest) else none
  | _ => none

def isLeap (year : Nat) : Bool := year % 4 == 0 && (year % 100 != 0 || year % 400 == 0)

def daysIn (year month : Nat) : Nat :=
  if month = 2 then (if isLeap year then 29 else 28)
  else if month = 4 ∨ month = 6 ∨ month = 9 ∨ month = 11 then 30
  else 31

def date? (text : List Char) : Option (List Char × List Char) :=
  match text with
  | a :: b :: c :: d :: '-' :: e :: f :: '-' :: g :: h :: rest =>
      let month := pairValue e f
      let day := pairValue g h
      if [a, b, c, d, e, f, g, h].all Char.isDigit && 1 ≤ month && month ≤ 12 && 1 ≤ day
          && day ≤ daysIn (Numeral.decimalValue [a, b, c, d]) month
      then some (text.take 10, rest)
      else none
  | _ => none

def fractionText (digits : List Char) : List Char :=
  match ((digits.take 9).reverse.dropWhile (· == '0')).reverse with
  | [] => []
  | kept => '.' :: kept

def seconds? : List Char → Option (List Char × List Char)
  | ':' :: rest =>
      match two? 61 rest with
      | none => none
      | some (seconds, '.' :: rest) =>
          let digits := rest.takeWhile Char.isDigit
          if digits.isEmpty then none
          else some (':' :: seconds ++ fractionText digits, rest.dropWhile Char.isDigit)
      | some (seconds, rest) => some (':' :: seconds, rest)
  | rest => some ([':', '0', '0'], rest)

def time? (text : List Char) : Option (List Char × List Char) :=
  match two? 24 text with
  | some (hour, ':' :: rest) =>
      match two? 60 rest with
      | some (minute, rest) =>
          (seconds? rest).map fun (seconds, rest) => (hour ++ ':' :: minute ++ seconds, rest)
      | none => none
  | _ => none

def shift? (sign : Char) (text : List Char) : Option (List Char) :=
  match two? 24 text with
  | some (hour, ':' :: rest) =>
      match two? 60 rest with
      | some (minute, []) =>
          -- no shift is written with a plus
          let zero := hour == ['0', '0'] && minute == ['0', '0']
          some ((if zero then '+' else sign) :: hour ++ ':' :: minute)
      | _ => none
  | _ => none

def offset? : List Char → Option (List Char)
  | [] => some []
  | ['Z'] | ['z'] => some ['Z']
  | '+' :: rest => shift? '+' rest
  | '-' :: rest => shift? '-' rest
  | _ => none

def isMoment (c : Char) : Bool := c == 'T' || c == 't' || c == ' '

def datetime? (text : List Char) : Option (List Char) :=
  match date? text with
  | some (date, []) => some date
  | some (date, c :: rest) =>
      if isMoment c then do
        let (time, rest) ← time? rest
        let offset ← offset? rest
        some (date ++ 'T' :: time ++ offset)
      else none
  | none =>
      match time? text with
      | some (time, []) => some time
      | _ => none

def moment? (text : List Char) : Option Setting :=
  (datetime? text).map fun text => .text (String.ofList text)

def scalar? (text : List Char) : Option Setting :=
  match text with
  | ['t', 'r', 'u', 'e'] => some (.flag true)
  | ['f', 'a', 'l', 's', 'e'] => some (.flag false)
  | '0' :: 'x' :: digits => radixInteger? 16 digits
  | '0' :: 'o' :: digits => radixInteger? 8 digits
  | '0' :: 'b' :: digits => radixInteger? 2 digits
  | '+' :: rest => number? false rest
  | '-' :: rest => number? true rest
  | text => (moment? text).or (number? false text)

end Verdict.Toml
