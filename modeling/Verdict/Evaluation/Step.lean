import Verdict.Evaluation.Event

set_option autoImplicit false

namespace Verdict

structure Call where
  name : String
  args : List Datum

structure Run (σ α : Type) where
  result : α
  events : List Event
  calls : List Call
  state : σ

abbrev Step (σ α : Type) := σ → Run σ α

namespace Step

variable {σ α β : Type}

def done (a : α) : Step σ α := fun state => ⟨a, [], [], state⟩

def andThen (first : Step σ α) (next : α → Step σ β) : Step σ β := fun state =>
  let a := first state
  let b := next a.result a.state
  ⟨b.result, a.events ++ b.events, a.calls ++ b.calls, b.state⟩

def report (event : Event) (a : α) : Step σ α := fun state => ⟨a, [event], [], state⟩

end Step

end Verdict
