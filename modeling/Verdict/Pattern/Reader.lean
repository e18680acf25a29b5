import Verdict.Pattern.Tree
import Verdict.Text.Blank
import Verdict.Unicode.Lookup

set_option autoImplicit false

namespace Verdict.Pattern

open Unicode (Ranges)

structure Cursor where
  rest : List Char
  -- white space and comments are skipped
  spacing : Bool
  groupNames : List String

abbrev Reader (α : Type) := StateT Cursor Option α

def refuse {α : Type} : Reader α := fun _ => none

-- The first list of characters inside a comment loses all up to the end of the line.
def skipSpacing : (inComment : Bool) → List Char → List Char
  | _, [] => []
  | true, c :: rest => skipSpacing (c != '\n') rest
  | false, c :: rest =>
      if Text.isBlank c then skipSpacing false rest
      else if c == '#' then skipSpacing true rest
      else c :: rest

def peek : Reader (Option Char) := fun cursor => some (cursor.rest.head?, cursor)

def current : Reader Char := fun cursor =>
  match cursor.rest with
  | [] => none
  | c :: _ => some (c, cursor)

def advance : Reader Unit := fun cursor => some ((), { cursor with rest := cursor.rest.drop 1 })

def skipSpace : Reader Unit := fun cursor =>
  some ((), if cursor.spacing then { cursor with rest := skipSpacing false cursor.rest } else cursor)

def advanceSkipping : Reader Unit := do
  advance
  skipSpace

def atEnd : Reader Bool := fun cursor => some (cursor.rest.isEmpty, cursor)

def accept (text : List Char) : Reader Bool := fun cursor =>
  if text.isPrefixOf cursor.rest then
    some (true, { cursor with rest := cursor.rest.drop text.length })
  else some (false, cursor)

def expect (c : Char) : Reader Unit := do
  if (← current) == c then advance else refuse

def isMeta (c : Char) : Bool :=
  "\\.+*?()|[]\x7b\x7d^$#&-~".toList.contains c

def isEscapable (c : Char) : Bool :=
  c.toNat < 0x80 && !c.isAlphanum && c != '<' && c != '>'

def specialEscape? : Char → Option Char
  | 'a' => some '\x07'
  | 'f' => some '\x0c'
  | 't' => some '\t'
  | 'n' => some '\n'
  | 'r' => some '\r'
  | 'v' => some '\x0b'
  | _ => none

def hexDigit? (c : Char) : Option Nat :=
  if c.isDigit then some (c.toNat - '0'.toNat)
  else if 'a' ≤ c ∧ c ≤ 'f' then some (c.toNat - 'a'.toNat + 10)
  else if 'A' ≤ c ∧ c ≤ 'F' then some (c.toNat - 'A'.toNat + 10)
  else none

def scalar? (n : Nat) : Option Char :=
  if h : n.isValidChar then some (Char.ofNatAux n h) else none

def scalarOf (n : Nat) : Reader Char :=
  match scalar? n with
  | some c => pure c
  | none => refuse

def fixedHex : (count value : Nat) → Reader Nat
  | 0, value => pure value
  | count + 1, value => do
      match hexDigit? (← current) with
      | some d =>
          advanceSkipping
          fixedHex count (value * 16 + d)
      | none => refuse

def bracedHex : (fuel value digits : Nat) → Reader Nat
  | 0, _, _ => refuse
  | fuel + 1, value, digits => do
      let c ← current
      if c == '\x7d' then
        advanceSkipping
        if digits = 0 then refuse else pure value
      else match hexDigit? c with
        | some d =>
            advanceSkipping
            bracedHex fuel (value * 16 + d) (digits + 1)
        | none => refuse

def remaining : Reader Nat := fun cursor => some (cursor.rest.length, cursor)

def hexLiteral (digits : Nat) : Reader Literal := do
  advanceSkipping
  if (← current) == '\x7b' then
    advanceSkipping
    let value ← bracedHex (← remaining) 0 0
    let c ← scalarOf value
    pure { char := c }
  else
    let value ← fixedHex digits 0
    let c ← scalarOf value
    pure { char := c, byte := digits == 2 }

def cutAtText? (separator : List Char) : List Char → Option (List Char × List Char)
  | [] => none
  | c :: rest =>
      if separator.isPrefixOf (c :: rest) then some ([], (c :: rest).drop separator.length)
      else (cutAtText? separator rest).map fun (before, after) => (c :: before, after)

def queryOf (text : List Char) : Query × Bool :=
  match cutAtText? ['!', '='] text with
  | some (name, value) => (.value (String.ofList name) (String.ofList value), true)
  | none =>
      match (cutAtText? [':'] text).or (cutAtText? ['='] text) with
      | some (name, value) => (.value (String.ofList name) (String.ofList value), false)
      | none => (.name (String.ofList text), false)

def braced : (fuel : Nat) → List Char → Reader (List Char)
  | 0, _ => refuse
  | fuel + 1, read => do
      let c ← current
      if c == '\x7d' then
        advance
        pure read.reverse
      else
        advanceSkipping
        braced fuel (c :: read)

def property : Reader ClassTree := do
  let negated := (← current) == 'P'
  advanceSkipping
  let c ← current
  if c == '\x7b' then
    advanceSkipping
    let text ← braced ((← remaining) + 1) []
    let (query, complement) := queryOf text
    pure (.property query (negated != complement))
  else if c == '\\' then refuse
  else
    advanceSkipping
    pure (.property (.name (String.singleton c)) negated)

def shorthand? : Char → Option ClassTree
  | 'd' => some (.shorthand .digit false)
  | 'D' => some (.shorthand .digit true)
  | 's' => some (.shorthand .space false)
  | 'S' => some (.shorthand .space true)
  | 'w' => some (.shorthand .word false)
  | 'W' => some (.shorthand .word true)
  | _ => none

def isBoundaryChar (c : Char) : Bool := c.isAlpha || c == '-'

def boundaryWord : (fuel : Nat) → List Char → Reader (List Char)
  | 0, read => pure read.reverse
  | fuel + 1, read => do
      match ← peek with
      | some c =>
          if isBoundaryChar c then
            advanceSkipping
            boundaryWord fuel (c :: read)
          else pure read.reverse
      | none => pure read.reverse

def boundaryOf? (word : String) : Option Assertion :=
  match word with
  | "start" => some .wordStart
  | "end" => some .wordEnd
  | "start-half" => some .wordStartHalf
  | "end-half" => some .wordEndHalf
  | _ => none

/-- After `\b`: a brace that holds a word names a kind of boundary; with anything else in it the brace
is left for a repetition. -/
def boundary : Reader Assertion := do
  if (← peek) == some '\x7b' then
    let before ← get
    advanceSkipping
    if isBoundaryChar (← current) then
      let word ← boundaryWord (← remaining) []
      expect '\x7d'
      match boundaryOf? (String.ofList word) with
      | some a => pure a
      | none => refuse
    else
      set before
      pure .wordBoundary
  else pure .wordBoundary

inductive Atom where
  | literal (l : Literal)
  | class (set : ClassTree)
  | assertion (a : Assertion)
  | dot

def assertionEscape (c : Char) : Reader Atom :=
  match c with
  | 'A' => pure (.assertion .textStart)
  | 'z' => pure (.assertion .textEnd)
  | 'B' => pure (.assertion .notWordBoundary)
  | '<' => pure (.assertion .wordStart)
  | '>' => pure (.assertion .wordEnd)
  | 'b' => do
      let a ← boundary
      pure (.assertion a)
  | _ => refuse

def escape : Reader Atom := do
  advance
  let c ← current
  match c with
  | 'x' => Atom.literal <$> hexLiteral 2
  | 'u' => Atom.literal <$> hexLiteral 4
  | 'U' => Atom.literal <$> hexLiteral 8
  | 'p' | 'P' => Atom.class <$> property
  | c =>
      advance
      match shorthand? c, specialEscape? c with
      | some set, _ => pure (.class set)
      | none, some special => pure (.literal { char := special })
      | none, none =>
          if isMeta c || isEscapable c then pure (.literal { char := c })
          else assertionEscape c

def atom : Reader Atom := do
  let c ← current
  match c with
  | '\\' => escape
  | '.' => advance *> pure .dot
  | '^' => advance *> pure (.assertion .lineStart)
  | '$' => advance *> pure (.assertion .lineEnd)
  | c => advance *> pure (.literal { char := c })

def asciiClass? (name : String) : Option Ranges :=
  match name with
  | "alnum" => some [(0x30, 0x39), (0x41, 0x5a), (0x61, 0x7a)]
  | "alpha" => some [(0x41, 0x5a), (0x61, 0x7a)]
  | "ascii" => some [(0, 0x7f)]
  | "blank" => some [(9, 9), (0x20, 0x20)]
  | "cntrl" => some [(0, 0x1f), (0x7f, 0x7f)]
  | "digit" => some [(0x30, 0x39)]
  | "graph" => some [(0x21, 0x7e)]
  | "lower" => some [(0x61, 0x7a)]
  | "print" => some [(0x20, 0x7e)]
  | "punct" => some [(0x21, 0x2f), (0x3a, 0x40), (0x5b, 0x60), (0x7b, 0x7e)]
  | "space" => some [(9, 13), (0x20, 0x20)]
  | "upper" => some [(0x41, 0x5a)]
  | "word" => some [(0x30, 0x39), (0x41, 0x5a), (0x5f, 0x5f), (0x61, 0x7a)]
  | "xdigit" => some [(0x30, 0x39), (0x41, 0x46), (0x61, 0x66)]
  | _ => none

def asciiClassAt? (text : List Char) : Option (ClassTree × List Char) :=
  match text with
  | '[' :: ':' :: body =>
      let (negated, body) := match body with
        | '^' :: body => (true, body)
        | body => (false, body)
      let name := body.takeWhile (· != ':')
      match body.dropWhile (· != ':') with
      | ':' :: ']' :: rest =>
          (asciiClass? (String.ofList name)).map fun ranges => (.named ranges negated, rest)
      | _ => none
  | _ => none

def peekBeyond : Reader (Option Char) := fun cursor =>
  let after := cursor.rest.drop 1
  let skipped :=
    if cursor.spacing then
      match after.dropWhile Text.isBlank with
      | '#' :: comment => comment.dropWhile Text.isBlank
      | rest => rest
    else after
  some ((if skipped.isEmpty then after else skipped).head?, cursor)

def classAtom : Reader Atom := do
  let c ← current
  if c == '\\' then escape
  else
    advance
    pure (.literal { char := c })

def Atom.item? : Atom → Option ClassTree
  | .literal l => some (.literal l)
  | .class set => some set
  | .assertion _ | .dot => none

def classItem : Reader ClassTree := do
  let first ← classAtom
  skipSpace
  let c ← current
  let beyond ← peekBeyond
  if c != '-' || beyond == some ']' || beyond == some '-' then
    match first.item? with
    | some item => pure item
    | none => refuse
  else
    advanceSkipping
    if ← atEnd then refuse
    let last ← classAtom
    match first, last with
    | .literal low, .literal high =>
        if low.char ≤ high.char then pure (.range low high) else refuse
    | _, _ => refuse

def leadingDashes : (fuel : Nat) → List ClassTree → Reader (List ClassTree)
  | 0, items => pure items
  | fuel + 1, items => do
      if (← current) == '-' then
        advanceSkipping
        leadingDashes fuel (.literal { char := '-' } :: items)
      else pure items

def classOpening : Reader (Bool × List ClassTree) := do
  skipSpace
  let negated := (← current) == '^'
  if negated then advanceSkipping
  let dashes ← leadingDashes (← remaining) []
  if dashes.isEmpty && (← current) == ']' then
    advanceSkipping
    let _ ← current
    pure (negated, [.literal { char := ']' }])
  else pure (negated, dashes)

def classOp? (text : List Char) : Option ClassOp :=
  match text with
  | '&' :: '&' :: _ => some .inter
  | '-' :: '-' :: _ => some .diff
  | '~' :: '~' :: _ => some .symmDiff
  | _ => none

def joinClass (pending : Option (ClassTree × ClassOp)) (items : List ClassTree) : ClassTree :=
  let right := ClassTree.ofItems items.reverse
  match pending with
  | some (left, op) => .binary op left right
  | none => right

mutual

def bracketed : (fuel : Nat) → Reader ClassTree
  | 0 => refuse
  | fuel + 1 => do
      advance
      let (negated, items) ← classOpening
      let set ← classBody fuel none items
      pure (.bracket negated set)

def classBody : (fuel : Nat) → Option (ClassTree × ClassOp) → List ClassTree → Reader ClassTree
  | 0, _, _ => refuse
  | fuel + 1, pending, items => do
      skipSpace
      let c ← current
      let cursor ← get
      if c == '[' then
        match asciiClassAt? cursor.rest with
        | some (item, rest) =>
            set { cursor with rest }
            classBody fuel pending (item :: items)
        | none =>
            let item ← bracketed fuel
            classBody fuel pending (item :: items)
      else if c == ']' then
        advance
        pure (joinClass pending items)
      else match classOp? cursor.rest with
        | some op =>
            set { cursor with rest := cursor.rest.drop 2 }
            classBody fuel (some (joinClass pending items, op)) []
        | none =>
            let item ← classItem
            classBody fuel pending (item :: items)

end

def isRepeatable : Tree → Bool
  | .empty | .flags _ => false
  | _ => true

def skipBlanksAlways (inSpacing : Bool) : Reader Unit := fun cursor =>
  let rest := cursor.rest.dropWhile Text.isBlank
  some ((), { cursor with rest := if inSpacing && cursor.spacing then skipSpacing false rest else rest })

def decimalDigits : (fuel : Nat) → List Char → Reader (List Char)
  | 0, read => pure read.reverse
  | fuel + 1, read => do
      match ← peek with
      | some c =>
          if c.isDigit then
            advanceSkipping
            decimalDigits fuel (c :: read)
          else pure read.reverse
      | none => pure read.reverse

def decimalCount : Reader (Option Nat) := do
  skipBlanksAlways false
  let digits ← decimalDigits (← remaining) []
  skipBlanksAlways true
  if digits.isEmpty then pure none
  else
    let value := digits.foldl (fun value c => value * 10 + (c.toNat - '0'.toNat)) 0
    if value < 0x100000000 then pure (some value) else refuse

def needed : Option Nat → Reader Nat
  | some n => pure n
  | none => refuse

def countedBounds : Reader (Nat × Option Nat) := do
  advanceSkipping
  let _ ← current
  let least ← decimalCount
  let bounds ←
    if (← current) == ',' then do
      advanceSkipping
      if (← current) == '\x7d' then
        let least ← needed least
        pure (least, none)
      else
        let least ← needed least
        let most ← decimalCount
        let most ← needed most
        pure (least, some most)
    else do
      let least ← needed least
      pure (least, some least)
  expect '\x7d'
  skipSpace
  match bounds with
  | (least, some most) => if least ≤ most then pure bounds else refuse
  | _ => pure bounds

def isRepetition (c : Char) : Bool := c == '?' || c == '*' || c == '+' || c == '\x7b'

def bounds : Reader (Nat × Option Nat) := do
  match ← current with
  | '?' => advance *> pure (0, some 1)
  | '*' => advance *> pure (0, none)
  | '+' => advance *> pure (1, none)
  | _ => countedBounds

def flag? : Char → Option Flag
  | 'i' => some .ignoreCase
  | 'm' => some .multiLine
  | 's' => some .dotNewline
  | 'U' => some .swapGreed
  | 'u' => some .unicode
  | 'R' => some .carriageReturn
  | 'x' => some .spacing
  | _ => none

def flagChange : (fuel : Nat) → (negated dangling : Bool) → FlagChange → Reader FlagChange
  | 0, _, _, _ => refuse
  | fuel + 1, negated, dangling, change => do
      let c ← current
      if c == ':' || c == ')' then
        if dangling then refuse else pure change
      else if c == '-' then
        if negated then refuse
        else
          advance
          flagChange fuel true true change
      else match flag? c with
        | none => refuse
        | some flag =>
            if (change.of flag).isSome then refuse
            else
              advance
              flagChange fuel negated false
                (if negated then { change with off := flag :: change.off }
                else { change with on := flag :: change.on })

def isNameStart (c : Char) : Bool :=
  c == '_' || Unicode.alphabetic.contains c.toNat

def isNameChar (c : Char) : Bool :=
  c == '_' || c == '.' || c == '[' || c == ']' || Unicode.alphanumeric.contains c.toNat

def groupName : Reader Unit := fun cursor =>
  let name := cursor.rest.takeWhile (· != '>')
  let after := cursor.rest.dropWhile (· != '>')
  match name, after with
  | first :: more, _ :: rest =>
      let text := String.ofList name
      if isNameStart first && more.all isNameChar && !cursor.groupNames.contains text then
        some ((), { cursor with rest, groupNames := text :: cursor.groupNames })
      else none
  | _, _ => none

def noChange : FlagChange := ⟨[], []⟩

def isLookAround (text : List Char) : Bool :=
  match text with
  | '?' :: '=' :: _ | '?' :: '!' :: _ | '?' :: '<' :: '=' :: _ | '?' :: '<' :: '!' :: _ => true
  | _ => false

inductive Opening where
  | capture
  | group (change : FlagChange)
  | flags (change : FlagChange)

def Opening.change : Opening → FlagChange
  | .capture => noChange
  | .group change | .flags change => change

def groupOpening : Reader Opening := do
  skipSpace
  if isLookAround (← get).rest then refuse
  if ← accept "?P<".toList then
    groupName
    pure .capture
  else if ← accept "?<".toList then
    groupName
    pure .capture
  else if ← accept ['?'] then
    let change ← flagChange ((← remaining) + 1) false false noChange
    let last ← current
    advance
    if last == ')' then
      if change.on.isEmpty && change.off.isEmpty then refuse else pure (.flags change)
    else pure (.group change)
  else pure .capture

def setSpacing (change : FlagChange) : Reader Unit := fun cursor =>
  some ((), { cursor with spacing := (change.of .spacing).getD cursor.spacing })

def Atom.tree : Atom → Tree
  | .literal l => .literal l
  | .class set => .class set
  | .assertion a => .assertion a
  | .dot => .dot

mutual

def alternatives : (fuel : Nat) → List Tree → Reader Tree
  | 0, _ => refuse
  | fuel + 1, earlier => do
      let item ← sequence fuel []
      if ← accept ['|'] then alternatives fuel (item :: earlier)
      else pure (Tree.ofAlternatives (item :: earlier).reverse)

def sequence : (fuel : Nat) → List Tree → Reader Tree
  | 0, _ => refuse
  | fuel + 1, items => do
      skipSpace
      match ← peek with
      | none | some '|' | some ')' => pure (Tree.ofSequence items.reverse)
      | some '(' =>
          let item ← group fuel
          sequence fuel (item :: items)
      | some '[' =>
          let item ← bracketed fuel
          sequence fuel (.class item :: items)
      | some c =>
          if isRepetition c then
            match items with
            | last :: before =>
                if isRepeatable last then
                  let (least, most) ← bounds
                  let isLazy ← accept ['?']
                  sequence fuel (.repetition last least most isLazy :: before)
                else refuse
            | [] => refuse
          else
            let item ← atom
            sequence fuel (item.tree :: items)

def group : (fuel : Nat) → Reader Tree
  | 0 => refuse
  | fuel + 1 => do
      let spacing := (← get).spacing
      advance
      let opening ← groupOpening
      setSpacing opening.change
      if let .flags change := opening then
        pure (.flags change)
      else
        let item ← alternatives fuel []
        expect ')'
        modify fun cursor => { cursor with spacing }
        match opening with
        | .capture => pure (.capture item)
        | .group change | .flags change => pure (.group change item)

end

def maxNesting : Nat := 250

def Tree.read? (pattern : List Char) : Option Tree :=
  match alternatives (3 * pattern.length + 3) [] ⟨pattern, false, []⟩ with
  | some (tree, cursor) =>
      if cursor.rest.isEmpty && tree.nesting ≤ maxNesting then some tree else none
  | none => none

end Verdict.Pattern
