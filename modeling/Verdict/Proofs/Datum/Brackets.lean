import Verdict.Proofs.Datum.Exposure
import Verdict.Proofs.Number.Text
import Verdict.Proofs.Text.Brackets

set_option autoImplicit false

namespace Verdict

open Text (Nested isBracket)

namespace Text

theorem isBracket_of_isNumeric {c : Char} (numeric : isNumeric c) : isBracket c = false := by
  have bounds := toNat_of_isNumeric numeric
  by_contra bracket
  simp only [isBracket, Bool.not_eq_false, Bool.or_eq_true, beq_iff_eq] at bracket
  rcases bracket with ((rfl | rfl) | rfl) | rfl <;> simp at bounds

end Text

theorem Number.unbracketed_display (n : Number) : Text.Unbracketed n.display :=
  fun c mem => Text.isBracket_of_isNumeric (n.isNumeric_display c mem)

theorem Number.unbracketed_write (n : Number) : Text.Unbracketed n.write :=
  fun c mem => Text.isBracket_of_isNumeric (n.isNumeric_write c mem)

namespace Datum

inductive Unbracketed : Datum → Prop where
  | null : Unbracketed .null
  | bool (b : Bool) : Unbracketed (.bool b)
  | num (n : Number) : Unbracketed (.num n)
  | str {s : String} : Text.Unbracketed s.toList → Unbracketed (.str s)
  | arr {elements : List Datum} : (∀ d ∈ elements, Unbracketed d) → Unbracketed (.arr elements)
  | obj (members : List (String × Datum)) : Unbracketed (.obj members)

theorem displayEach_cons (d : Datum) (rest : List Datum) :
    ∃ piece, displayEach (d :: rest) = piece :: displayEach rest ∧
      (piece = d.display ∨ d = .null ∧ piece = []) := by
  cases d with
  | null => exact ⟨[], rfl, .inr ⟨rfl, rfl⟩⟩
  | bool | num | str | arr | obj => exact ⟨_, rfl, .inl rfl⟩

theorem nested_displayEach {elements : List Datum} (all : ∀ d ∈ elements, Nested d.display) :
    ∀ piece ∈ displayEach elements, Nested piece := by
  induction elements with
  | nil => exact List.forall_mem_nil _
  | cons d rest ih =>
    obtain ⟨here, others⟩ := List.forall_mem_cons.mp all
    obtain ⟨piece, each, rfl | ⟨-, rfl⟩⟩ := displayEach_cons d rest
    · exact each ▸ List.forall_mem_cons.mpr ⟨here, ih others⟩
    · exact each ▸ List.forall_mem_cons.mpr ⟨.nil, ih others⟩

theorem Unbracketed.nested_display {d : Datum} (h : d.Unbracketed) : Nested d.display := by
  induction h with
  | null => rfl
  | bool b => cases b <;> rfl
  | num n => exact n.unbracketed_display.nested
  | str plain => exact plain.nested
  | arr _ ih => exact .joinWith (by decide) (nested_displayEach ih)
  | obj members => rfl

theorem display_mem_displayEach {elements : List Datum} {d : Datum} (mem : d ∈ elements) :
    d = .null ∨ d.display ∈ displayEach elements := by
  induction elements with
  | nil => cases mem
  | cons head rest ih =>
    obtain ⟨piece, each, shown⟩ := displayEach_cons head rest
    rw [each]
    rcases List.mem_cons.mp mem with rfl | within
    · rcases shown with rfl | ⟨null, -⟩
      · exact .inr List.mem_cons_self
      · exact .inl null
    · exact (ih within).imp_right (List.mem_cons_of_mem piece)

theorem unbracketed_of_display {d : Datum} (plain : Text.Unbracketed d.display) : d.Unbracketed := by
  induction d using Datum.induct with
  | null => exact .null
  | bool b => exact .bool b
  | num n => exact .num n
  | str s => exact .str plain
  | arr elements ih =>
    refine .arr fun d mem => ?_
    rcases display_mem_displayEach mem with rfl | shown
    · exact .null
    · exact ih d mem (plain.of_joinWith shown)
  | obj members _ => exact .obj members

end Datum

end Verdict
