import Verdict.Pattern.Compact
import Verdict.Pattern.Layout

set_option autoImplicit false

namespace Verdict.Pattern

open Unicode (Ranges)

inductive Direction where
  | forward | backward
deriving DecidableEq

abbrev Word := List UInt8

def wordOf (direction : Direction) (text : List Char) : Word :=
  let bytes := text.flatMap String.utf8EncodeChar
  match direction with
  | .forward => bytes
  | .backward => bytes.reverse

def cutAtEmpty : List Word → List (List Word)
  | [] => [[]]
  | [] :: rest => [] :: cutAtEmpty rest
  | word :: rest =>
      match cutAtEmpty rest with
      | [] => [[word]]
      | words :: more => (word :: words) :: more

def dropRepeated : List Word → List Word
  | [] :: [] :: rest => dropRepeated ([] :: rest)
  | words => words

def tails (words : List Word) : List (List Word) :=
  (words.filterMap List.head?).eraseDups.map fun byte =>
    words.filterMap fun word => if word.head? == some byte then some word.tail else none

/-- Words that share what they begin with, up to the next word that ends: a state for each byte that is
followed by more, and one that branches between these states and the ends. -/
def layWords : (fuel : Nat) → List Word → Layout Unit
  | 0, _ => pure ()
  | fuel + 1, words => do
      let parts := (cutAtEmpty (dropRepeated words)).map tails
      parts.forM fun part => do
        part.forM fun rest => if rest.all List.isEmpty then pure () else layWords fuel rest
        match part with
        | [] => pure ()
        | [_] => let _ ← place 0
        | _ => let _ ← place (arcBytes * part.length)
      let branches := (parts.filter fun part => !part.isEmpty).length + (parts.length - 1)
      let _ ← place (branchBytes * branches)

def longestWord (words : List Word) : Nat := words.foldl (fun n word => max n word.length) 0

def layTexts (words : List Word) : Layout Unit := do
  let _ ← place 0
  layWords (longestWord words + 1) words

abbrev Laying := Layout Bool

def placeMany (count : Nat) : Layout Unit := (List.range count).forM fun _ => discard (place 0)

def laySet (direction : Direction) (set : Ranges) : Layout Unit :=
  if isAsciiSet set then do
    let _ ← place 0
    let _ ← place (arcBytes * set.length)
  else match direction with
    | .forward => layRuns (byteRuns set)
    | .backward => layRunsBackward (byteRuns set)

def layCopies (item : Laying) : (count : Nat) → Option Bool → Layout (Option Bool)
  | 0, before, room => some (before, room)
  | count + 1, before, room =>
      match item room with
      | none => none
      | some (ends, room) =>
          match link (before.getD false) room with
          | none => none
          | some (_, room) => layCopies item count (some ends) room

def layExactly (item : Laying) (count : Nat) : Laying := do
  match ← layCopies item count none with
  | some ends => pure ends
  | none =>
      let _ ← place 0
      pure false

def layRound (before ends : Bool) : Laying := do
  let _ ← place 0
  link before
  link ends
  link true
  pure true

def layTry (item : Laying) (before : Bool) : Laying := do
  let _ ← place 0
  let ends ← item
  link before
  link true
  link true
  pure ends

def layOptional (item : Laying) : (count : Nat) → (before : Bool) → Laying
  | 0, before, room => some (before, room)
  | count + 1, before, room =>
      match layTry item before room with
      | none => none
      | some (ends, room) => layOptional item count ends room

def layRepetition (item : Laying) (takesSome : Bool) : (least : Nat) → Option Nat → Laying
  | 0, some 1 => do
      let _ ← place 0
      let ends ← item
      let _ ← place 0
      link true
      link true
      link ends
      pure false
  | 0, none =>
      if takesSome then do
        let _ ← place 0
        let ends ← item
        link true
        link ends
        pure true
      else do
        let ends ← item
        let _ ← layRound false ends
        let _ ← place 0
        let _ ← place 0
        link true
        link true
        link true
        pure false
  | 1, none => do
      let ends ← item
      layRound false ends
  | least + 1, none => do
      let before ← layExactly item least
      let ends ← item
      layRound before ends
  | least, some most => do
      let ends ← layExactly item least
      if least < most then
        let _ ← place 0
        let ends ← layOptional item (most - least) ends
        link ends
        pure false
      else pure ends

def Compact.text? : Compact → Option (List Char)
  | .text cs => some cs
  | _ => none

mutual

def Compact.lay (direction : Direction) : Compact → Laying
  | .empty | .look _ => do
      let _ ← place 0
      pure false
  | .text cs => do
      placeMany (wordOf direction cs).length
      pure false
  | .chars set => do
      laySet direction set
      pure false
  | .repetition item least most _ =>
      layRepetition (item.lay direction) item.takesSome least most
  | .capture item =>
      match direction with
      | .forward => do
          let _ ← place 0
          let ends ← item.lay direction
          let _ ← place 0
          link ends
          pure false
      | .backward => item.lay direction
  | .alternation items =>
      match items.mapM Compact.text? with
      | some texts => do
          layTexts (texts.map (wordOf direction))
          pure false
      | none => do
          Compact.layChoices direction 0 items
          pure false
  | .sequence items => do
      let ends ← Compact.layInTurn direction none items
      pure (ends.getD false)

def Compact.layChoices (direction : Direction) : (earlier : Nat) → List Compact → Layout Unit
  | _, [] => pure ()
  | earlier, item :: rest => do
      let ends ← item.lay direction
      if earlier == 1 then placeMany 2
      link true
      link ends
      Compact.layChoices direction (earlier + 1) rest

def Compact.layInTurn (direction : Direction) (before : Option Bool) :
    List Compact → Layout (Option Bool)
  | [] => pure before
  | item :: rest =>
      match direction with
      | .forward => do
          let ends ← item.lay direction
          link (before.getD false)
          Compact.layInTurn direction (some ends) rest
      | .backward => do
          let before ← Compact.layInTurn direction before rest
          let ends ← item.lay direction
          link (before.getD false)
          pure (some ends)

end

def Compact.isAnchored (direction : Direction) (e : Compact) : Bool :=
  match direction with
  | .forward => e.opensWith .textStart
  | .backward => e.closesWith .textEnd

def layStart (isAnchored : Bool) : Laying := do
  let _ ← place 0
  if isAnchored then pure false
  else
    let _ ← place 0
    let _ ← place arcBytes
    link true
    pure true

def Compact.layWhole (direction : Direction) (e : Compact) : Layout Unit := do
  let start ← layStart (e.isAnchored direction)
  let ends ← (Compact.capture e).lay direction
  let _ ← place 0
  link ends
  link start

def Compact.fitsIn (direction : Direction) (e : Compact) : Bool :=
  ((e.layWhole direction).run ⟨0, 0⟩).isSome

def Compact.fits (e : Compact) : Bool := e.fitsIn .forward && e.fitsIn .backward

end Verdict.Pattern
