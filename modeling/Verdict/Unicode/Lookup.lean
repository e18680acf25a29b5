import Verdict.Unicode.Added
import Verdict.Unicode.Age
import Verdict.Unicode.Break
import Verdict.Unicode.Category
import Verdict.Unicode.Property
import Verdict.Unicode.Ranges
import Verdict.Unicode.Script
import Verdict.Unicode.ScriptExtension

set_option autoImplicit false

namespace Verdict.Unicode

abbrev Table := List (List String × String)

def Table.find? (table : Table) (name : String) : Option Ranges :=
  (List.find? (fun entry => entry.1.contains name) table).map fun entry => readRanges entry.2

def categoryGroup? (name : String) : Option (List String) :=
  match name with
  | "lc" | "casedletter" => some ["lu", "ll", "lt"]
  | "l" | "letter" => some ["lu", "ll", "lt", "lm", "lo"]
  | "m" | "mark" | "combiningmark" => some ["mn", "mc", "me"]
  | "n" | "number" => some ["nd", "nl", "no"]
  | "p" | "punctuation" | "punct" => some ["pc", "pd", "ps", "pe", "pi", "pf", "po"]
  | "s" | "symbol" => some ["sm", "sc", "sk", "so"]
  | "z" | "separator" => some ["zs", "zl", "zp"]
  | _ => none

def unionOf (names : List String) : Ranges :=
  Ranges.ofList (names.flatMap fun name => (Table.find? categoryTexts name).getD [])

def assigned : Ranges := Ranges.ofList (categoryTexts.flatMap fun entry => readRanges entry.2)

def generalCategory? (name : String) : Option Ranges :=
  match name with
  | "cs" | "surrogate" => none
  | "any" => some Ranges.full
  | "assigned" => some assigned
  | "ascii" => some [(0, 0x7f)]
  | "cn" | "unassigned" => some assigned.complement
  | "c" | "other" => some (Ranges.union assigned.complement (unionOf ["cc", "cf", "co", "cs"]))
  | name =>
      match categoryGroup? name with
      | some names => some (unionOf names)
      | none => Table.find? categoryTexts name

def script? (name : String) : Option Ranges := Table.find? scriptTexts name

def scriptExtension? (name : String) : Option Ranges :=
  (Table.find? scriptExtensionTexts name).or (script? name)

def versionsUpTo? (name : String) : Table → Option Table
  | [] => none
  | entry :: rest =>
      if entry.1.contains name then some [entry]
      else (versionsUpTo? name rest).map (entry :: ·)

def age? (name : String) : Option Ranges :=
  (versionsUpTo? name ageTexts).map fun versions =>
    Ranges.ofList (versions.flatMap fun entry => readRanges entry.2)

def property? (name : String) : Option Ranges := Table.find? propertyTexts name

def grownIndex (name added : String) : Ranges.Index :=
  Ranges.index (Ranges.union ((property? name).getD []) (readRanges added))

def printable : Ranges.Index :=
  Ranges.index (Ranges.ofList ((0x20, 0x20) :: readRanges addedText
    ++ ["l", "m", "n", "p", "s"].flatMap fun group => unionOf ((categoryGroup? group).getD [])))

def graphemeExtend : Ranges.Index := grownIndex "graphemeextend" addedGraphemeExtendText

def alphabetic : Ranges.Index := grownIndex "alphabetic" addedAlphabeticText

def alphanumeric : Ranges.Index :=
  Ranges.index (Ranges.ofList ((property? "alphabetic").getD [] ++ readRanges addedAlphabeticText
    ++ unionOf ["nd", "nl", "no"] ++ readRanges addedNumericText))

def space : Ranges := (property? "whitespace").getD []

def digit : Ranges := unionOf ["nd"]

def word : Ranges :=
  Ranges.ofList ((property? "alphabetic").getD [] ++ (property? "joincontrol").getD []
    ++ unionOf ["mn", "mc", "me", "nd", "pc"])

def wordIndex : Ranges.Index := word.index

end Verdict.Unicode
