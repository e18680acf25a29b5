import Mathlib.Algebra.Field.Rat
import Mathlib.Algebra.Order.Field.Basic
import Verdict.Document.Scalar
import Verdict.Proofs.Numeral.Grammar

set_option autoImplicit false

namespace Verdict.Document

open Numeral (Sign)

def blanks : List Char := [' ', '\n', '\t', '\r']

def Blanks (text : List Char) : Prop := ∀ c ∈ text, c ∈ blanks

instance (text : List Char) : Decidable (Blanks text) := List.decidableBAll _ text

theorem Blanks.nil : Blanks [] := nofun

section Strings

def escapes : List (Char × Char) :=
  [('"', '"'), ('\\', '\\'), ('/', '/'), ('b', '\x08'), ('f', '\x0c'), ('n', '\n'), ('r', '\r'),
    ('t', '\t')]

def Unit (text : List Char) (n : Nat) : Prop := text.length = 4 ∧ Numeral.Spells 16 text n

inductive SpellsChar : List Char → Char → Prop where
  | plain {c : Char} : 0x20 ≤ c.toNat → c ≠ '"' → c ≠ '\\' → SpellsChar [c] c
  | escape {mark c : Char} : (mark, c) ∈ escapes → SpellsChar ['\\', mark] c
  | unit {digits : List Char} {n : Nat} : Unit digits n → ¬(0xd800 ≤ n ∧ n ≤ 0xdfff) →
      SpellsChar ('\\' :: 'u' :: digits) (Char.ofNat n)
  | pair {high low : List Char} {m n : Nat} : Unit high m → 0xd800 ≤ m → m ≤ 0xdbff →
      Unit low n → 0xdc00 ≤ n → n ≤ 0xdfff →
      SpellsChar ('\\' :: 'u' :: (high ++ '\\' :: 'u' :: low))
        (Char.ofNat (0x10000 + (m - 0xd800) * 0x400 + (n - 0xdc00)))

inductive SpellsChars : List Char → List Char → Prop where
  | nil : SpellsChars [] []
  | cons {text more : List Char} {c : Char} {cs : List Char} : SpellsChar text c →
      SpellsChars more cs → SpellsChars (text ++ more) (c :: cs)

end Strings

section Numbers

def Digits (text : List Char) : Prop := text ≠ [] ∧ ∀ c ∈ text, c.isDigit

inductive Fraction : List Char → List Char → Prop where
  | absent : Fraction [] []
  | point {digits : List Char} : Digits digits → Fraction ('.' :: digits) digits

inductive Power : List Char → Option Int → Prop where
  | absent : Power [] none
  | mark {mark : Char} {sign digits : List Char} {negative : Bool} {n : Nat} :
      mark = 'e' ∨ mark = 'E' → Sign sign negative → Numeral.Spells 10 digits n →
      Power (mark :: (sign ++ digits)) (some (if negative then -(n : Int) else n))

structure Parts where
  negative : Bool
  whole : List Char
  fraction : List Char
  power : Option Int

/-- A number as it is written, its sign apart: no zero stands in front of other digits. -/
inductive Written : List Char → Parts → Prop where
  | mk {negative : Bool} {whole point fraction exponent : List Char} {power : Option Int} :
      Digits whole → (∀ c more, whole ≠ '0' :: c :: more) → Fraction point fraction →
      Power exponent power → Written (whole ++ (point ++ exponent)) ⟨negative, whole, fraction, power⟩

namespace Parts

def digits (p : Parts) : Nat := Nat.ofDigitChars 10 (p.whole ++ p.fraction) 0

def exponent (p : Parts) : Int := p.power.getD 0

def magnitude (p : Parts) : ℚ := p.digits * 10 ^ (p.exponent - p.fraction.length)

def integer (p : Parts) : Int := if p.negative then -(p.digits : Int) else p.digits

/-- An integer of 64 bits, written as one; minus zero is none. -/
def IsInteger (p : Parts) : Prop :=
  p.fraction = [] ∧ p.power = none ∧ (-0x8000000000000000 ≤ p.integer ∧ p.integer < 0x10000000000000000) ∧
    ¬(p.negative ∧ p.digits = 0)

/-- At most 10 ^ 308, and with a power that fits in 32 bits. -/
def InRange (p : Parts) : Prop :=
  p.magnitude ≤ tenTo 308 ∧ (p.digits = 0 ∨ p.exponent < 0x80000000)

end Parts

/-- As many digits as fit in 64 bits, after those of `start`. -/
def Leading (start : Nat) (digits : List Char) (s : Significand) : Prop :=
  ∃ taken left, digits = taken ++ left ∧
    s = ⟨Nat.ofDigitChars 10 taken start, taken.length, left.length⟩ ∧
    s.value < 0x10000000000000000 ∧
    ∀ c ∈ left.head?, 0x10000000000000000 ≤ Nat.ofDigitChars 10 (taken ++ [c]) start

def Scaled (significand : Nat) (start power : Int) (x : Binary64) : Prop :=
  if power.natAbs < 0x80000000 then scale? 3 (Binary64.ofNat significand) (start + power) = some x
  else (significand = 0 ∨ power < 0) ∧ x = .zero

/-- The float a number is taken for: its leading digits, those of the whole first and then those of the
fraction, scaled by what the power and the places come to. -/
def Parts.Rounds (p : Parts) (x : Binary64) : Prop :=
  ∃ s t, Leading 0 p.whole s ∧ Leading s.value p.fraction t ∧
    Scaled t.value (s.dropped - t.taken) p.exponent x

inductive SpellsMagnitude : Bool → List Char → Number → Prop where
  | int {text : List Char} {p : Parts} (written : Written text p) (integer : p.IsInteger) :
      SpellsMagnitude p.negative text (.int p.integer integer.2.2.1)
  | float {text : List Char} {p : Parts} {x : Binary64} (finite : x.isFinite = true) :
      Written text p → ¬p.IsInteger → p.Rounds x →
      SpellsMagnitude p.negative text (.float ⟨p.negative, x.rank, x.rank_le⟩ finite)

end Numbers

section Documents

inductive SpellsKey : List Char → String → Prop where
  | mk {before text between after : List Char} {key : List Char} : Blanks before →
      SpellsChars text key → Blanks between → Blanks after →
      SpellsKey (before ++ '"' :: (text ++ '"' :: (between ++ ':' :: after))) (String.ofList key)

mutual

/-- The texts of a datum, with no blanks around them. -/
inductive Spells : List Char → Datum → Prop where
  | null : Spells ['n', 'u', 'l', 'l'] .null
  | yes : Spells ['t', 'r', 'u', 'e'] (.bool true)
  | no : Spells ['f', 'a', 'l', 's', 'e'] (.bool false)
  | natural {text : List Char} {n : Number} : SpellsMagnitude false text n → Spells text (.num n)
  | negative {text : List Char} {n : Number} : SpellsMagnitude true text n →
      Spells ('-' :: text) (.num n)
  | str {text : List Char} {s : List Char} : SpellsChars text s →
      Spells ('"' :: (text ++ ['"'])) (.str (String.ofList s))
  | noElements {gap : List Char} : Blanks gap → Spells ('[' :: (gap ++ [']'])) (.arr [])
  | elements {text : List Char} {xs : List Datum} : SpellsElements text xs →
      Spells ('[' :: (text ++ [']'])) (.arr xs)
  | noMembers {gap : List Char} : Blanks gap → Spells ('\x7b' :: (gap ++ ['\x7d'])) (.obj [])
  | members {text : List Char} {ms : List (String × Datum)} : SpellsMembers text ms →
      Spells ('\x7b' :: (text ++ ['\x7d'])) (.obj ms)

inductive SpellsElements : List Char → List Datum → Prop where
  | last {before text after : List Char} {d : Datum} : Blanks before → Spells text d →
      Blanks after → SpellsElements (before ++ (text ++ after)) [d]
  | next {before text after more : List Char} {d : Datum} {xs : List Datum} : Blanks before →
      Spells text d → Blanks after → SpellsElements more xs →
      SpellsElements (before ++ (text ++ (after ++ ',' :: more))) (d :: xs)

inductive SpellsMembers : List Char → List (String × Datum) → Prop where
  | last {start text after : List Char} {key : String} {d : Datum} : SpellsKey start key →
      Spells text d → Blanks after → SpellsMembers (start ++ (text ++ after)) [(key, d)]
  | next {start text after more : List Char} {key : String} {d : Datum}
      {ms : List (String × Datum)} : SpellsKey start key → Spells text d → Blanks after →
      SpellsMembers more ms →
      SpellsMembers (start ++ (text ++ (after ++ ',' :: more))) ((key, d) :: ms)

end

/-- A whole text of a datum, with nothing but blanks around it. -/
inductive IsText : List Char → Datum → Prop where
  | mk {before text after : List Char} {d : Datum} : Blanks before → Spells text d →
      Blanks after → IsText (before ++ (text ++ after)) d

end Documents

end Verdict.Document
