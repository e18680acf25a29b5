import Std.Data.HashMap
import Verdict.Pattern.ByteRun

/-!
Laying out automata that read bytes. Only the room is kept account of: how many states there are, and
how many bytes they take. There is an end to the room.
-/

set_option autoImplicit false

namespace Verdict.Pattern

structure Room where
  states : Nat
  bytes : Nat

def maxBytes : Nat := 10 * 0x100000

def stateBytes : Nat := 32

def arcBytes : Nat := 8

def branchBytes : Nat := 4

abbrev Layout (α : Type) := StateT Room Option α

def place (own : Nat) : Layout Nat := fun room =>
  let bytes := room.bytes + stateBytes + own
  if bytes ≤ maxBytes then some (room.states, ⟨room.states + 1, bytes⟩) else none

def link (branches : Bool) : Layout Unit := fun room =>
  let bytes := if branches then room.bytes + branchBytes else room.bytes
  if bytes ≤ maxBytes then some ((), { room with bytes }) else none

structure Arc where
  range : ByteRange
  next : Nat
deriving DecidableEq

def hashStart : UInt64 := 0xcbf29ce484222325

def hashWith (hash value : UInt64) : UInt64 := (hash ^^^ value) * 0x100000001b3

def hashArcs (arcs : List Arc) : UInt64 :=
  arcs.foldl (fun hash arc =>
    hashWith (hashWith (hashWith hash arc.range.1.toUInt64) arc.range.2.toUInt64)
      arc.next.toUInt64) hashStart

-- The states of a set by the hash of their arcs; one that comes later takes the slot over.
abbrev ArcTable := Std.HashMap UInt64 (List Arc × Nat)

def arcSlots : UInt64 := 10000

def placeArcs (arcs : List Arc) : StateT ArcTable Layout Nat := fun table =>
  let slot := hashArcs arcs % arcSlots
  match table[slot]?.filter fun entry => entry.1 == arcs with
  | some (_, state) => pure (state, table)
  | none => do
      let state ← place (arcBytes * arcs.length)
      pure (state, table.insert slot (arcs, state))

/-- A state that may still get arcs, its arcs so far with the last one first, and the range of one that
does not lead anywhere yet. -/
structure OpenState where
  arcs : List Arc
  pending : Option ByteRange

def OpenState.lead (state : OpenState) (next : Nat) : OpenState :=
  match state.pending with
  | some range => ⟨⟨range, next⟩ :: state.arcs, none⟩
  | none => state

def settle (target : Nat) : List OpenState → StateT ArcTable Layout Nat
  | [] => pure target
  | state :: deeper => do
      let next ← settle target deeper
      placeArcs (state.lead next).arcs.reverse

def extend (target : Nat) : List OpenState → ByteRun → StateT ArcTable Layout (List OpenState)
  | state :: deeper, range :: run =>
      if state.pending == some range then do
        let deeper ← extend target deeper run
        pure (state :: deeper)
      else do
        let next ← settle target deeper
        let state := { state.lead next with pending := some range }
        pure (state :: run.map fun range => ⟨[], some range⟩)
  | states, _ => pure states

def layRuns (runs : List ByteRun) : Layout Unit := do
  let target ← place 0
  let laid : StateT ArcTable Layout Nat := do
    let states ← runs.foldlM (extend target) [⟨[], none⟩]
    settle target states
  let _ ← laid.run ∅

structure Step where
  next : Nat
  range : ByteRange
deriving DecidableEq

def Step.hash (step : Step) : UInt64 :=
  hashWith (hashWith (hashWith hashStart step.next.toUInt64) step.range.1.toUInt64)
    step.range.2.toUInt64

abbrev StepTable := Std.HashMap UInt64 (Step × Nat)

def stepSlots : UInt64 := 1000

def placeStep (state : Nat) (range : ByteRange) : StateT StepTable Layout Nat := fun table =>
  let step : Step := ⟨state, range⟩
  let slot := step.hash % stepSlots
  match table[slot]?.filter fun entry => entry.1 == step with
  | some (_, state) => pure (state, table)
  | none => do
      let state ← place 0
      pure (state, table.insert slot (step, state))

-- The first byte of a character is the last one met, so runs with the same first bytes share states.
def layRunsBackward (runs : List ByteRun) : Layout Unit := do
  let _ ← place 0
  let target ← place 0
  let laid : StateT StepTable Layout Unit := runs.forM fun run => do
    let _ ← run.foldlM placeStep target
    link true
  let _ ← laid.run ∅

end Verdict.Pattern
