import Verdict.Evaluation.Evaluate
import Verdict.Proofs.Sentence.Leaves

set_option autoImplicit false

namespace Verdict

namespace Text

def cutSlash? : List Char → Option (List Char × List Char)
  | [] | ['\\'] => none
  | '/' :: rest => some ([], rest)
  | '\\' :: c :: rest => (cutSlash? rest).map fun (source, rest) => ('\\' :: c :: source, rest)
  | c :: rest => (cutSlash? rest).map fun (source, rest) => (c :: source, rest)

def cutPattern? : List Char → Option (List Char × List Char)
  | '/' :: rest => cutSlash? rest
  | _ => none

/-- The whole text is one pattern between two slashes. -/
def Delimited (text : List Char) : Prop := ∃ source, cutPattern? text = some (source, [])

inductive Contained : List Char → Prop where
  | nil : Contained []
  | taken {c : Char} {text : List Char} : Contained text → Contained ('\\' :: c :: text)
  | plain {c : Char} {text : List Char} :
      c ≠ '/' → c ≠ '\\' → Contained text → Contained (c :: text)

section Cuts

variable {text source rest : List Char}

theorem Contained.cutSlash? (h : Contained source) (rest : List Char) :
    cutSlash? (source ++ '/' :: rest) = some (source, rest) := by
  induction h with
  | nil => rfl
  | taken _ ih => simp [Text.cutSlash?, ih]
  | plain _ backslash _ ih => simp [Text.cutSlash?, backslash, ih]

theorem Contained.cutPattern? (h : Contained source) (rest : List Char) :
    cutPattern? ('/' :: source ++ '/' :: rest) = some (source, rest) := h.cutSlash? rest

theorem contained_of_cutSlash? (cut : cutSlash? text = some (source, rest)) :
    text = source ++ '/' :: rest ∧ Contained source := by
  fun_induction cutSlash? text generalizing source with
  | case1 => cases cut
  | case2 => cases cut
  | case3 rest =>
    cases cut
    exact ⟨rfl, .nil⟩
  | case4 c text ih =>
    obtain ⟨⟨inner, after⟩, found, same⟩ := Option.map_eq_some_iff.mp cut
    cases same
    obtain ⟨rfl, contained⟩ := ih found
    exact ⟨rfl, .taken contained⟩
  | case5 c text last slash taken ih =>
    obtain ⟨⟨inner, after⟩, found, same⟩ := Option.map_eq_some_iff.mp cut
    cases same
    -- a backslash would be the last character, or take the next one
    have backslash : c ≠ '\\' := by
      intro same
      cases text with
      | nil => exact last same rfl
      | cons d text => exact taken d text same rfl
    obtain ⟨rfl, contained⟩ := ih found
    exact ⟨rfl, .plain slash backslash contained⟩

theorem delimited_iff :
    Delimited text ↔ ∃ source, Contained source ∧ text = '/' :: source ++ ['/'] := by
  constructor
  · rintro ⟨source, cut⟩
    unfold cutPattern? at cut
    split at cut
    · next rest =>
      obtain ⟨rfl, contained⟩ := contained_of_cutSlash? cut
      exact ⟨source, contained, rfl⟩
    · cases cut
  · rintro ⟨source, contained, same⟩
    exact ⟨source, same ▸ contained.cutPattern? []⟩

theorem Contained.head_ne (h : Contained text) (rest : List Char) : text ≠ '/' :: rest := by
  intro same
  cases h with
  | nil => cases same
  | taken => cases same
  | plain slash => exact slash (List.cons.inj same).1

end Cuts

end Text

namespace Literal

open Text

variable {source : String}

/-- Which patterns are written as one delimited pattern: those that are contained between the slashes
put around them, and those that are such patterns with slashes of their own. -/
theorem delimited_text_iff :
    Delimited (text .pattern (.str source)) ↔ Contained source.toList ∨ Delimited source.toList := by
  simp only [text, patternText]
  split
  · next rest open_ =>
    rw [open_]
    constructor
    · exact .inr
    · rintro (contained | delimited)
      · exact absurd rfl (contained.head_ne rest)
      · exact delimited
  · next closed =>
    rw [delimited_iff]
    constructor
    · rintro ⟨inner, contained, same⟩
      obtain rfl := List.append_cancel_right (List.cons.inj same).2
      exact .inl contained
    · rintro (contained | delimited)
      · exact ⟨_, contained, rfl⟩
      · obtain ⟨inner, -, own⟩ := delimited_iff.mp delimited
        exact absurd own (closed _)

theorem cutPattern?_text (contained : Contained source.toList) (rest : List Char) :
    cutPattern? (text .pattern (.str source) ++ rest) = some (source.toList, rest) := by
  rw [pattern_text_of_ne contained.head_ne, List.append_assoc]
  exact contained.cutPattern? rest

theorem exists_text_not_delimited :
    text .pattern (.str "/api") = "/api".toList ∧ ¬Delimited (text .pattern (.str "/api")) := by
  refine ⟨rfl, fun ⟨source, cut⟩ => ?_⟩
  have none : cutPattern? (text .pattern (.str "/api")) = none := rfl
  rw [none] at cut
  cases cut

end Literal

/-- A bare slash in a pattern ends it, and what follows is read as the rest of another rule. -/
theorem Node.render_eq_of_bare_slash :
    let one : Node := .binary .matching (.field "m") (.pattern "a/ or b =~ /c")
    let two : Node := .or (.binary .matching (.field "m") (.pattern "a"))
      (.binary .matching (.field "b") (.pattern "c"))
    let patterns : Datum.Patterns := fun source => some (Text.occursIn source.toList)
    let ctx : Context Unit := ⟨.obj [("b", .str ""), ("m", .str "a")], none, patterns⟩
    one.render true = two.render true ∧
      (Evaluation.evaluate ctx one ()).result = .ok (.bool false) ∧
      (Evaluation.evaluate ctx two ()).result = .ok (.bool true) :=
  ⟨rfl, rfl, rfl⟩

end Verdict
