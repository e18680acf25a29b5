import Verdict.Text.Search

set_option autoImplicit false

namespace Verdict.Text

variable {separator : Char} {text : List Char}

theorem cutAt?_eq_some_iff {before after : List Char} :
    cutAt? separator text = some (before, after) ↔
      text = before ++ separator :: after ∧ separator ∉ before := by
  induction text generalizing before with
  | nil => simp [cutAt?]
  | cons c rest ih =>
    rw [cutAt?]
    by_cases here : c = separator
    · subst here
      rw [if_pos (beq_self_eq_true c), Option.some.injEq, Prod.mk.injEq]
      constructor
      · rintro ⟨rfl, rfl⟩
        exact ⟨rfl, List.not_mem_nil⟩
      · rintro ⟨same, free⟩
        cases before with
        | nil => exact ⟨rfl, (List.cons.inj same).2⟩
        | cons d before => exact absurd ((List.cons.inj same).1 ▸ List.mem_cons_self) free
    · rw [if_neg (by simpa using here)]
      constructor
      · intro found
        obtain ⟨⟨first, last⟩, cut, same⟩ := Option.map_eq_some_iff.mp found
        cases same
        obtain ⟨rfl, free⟩ := ih.mp cut
        exact ⟨rfl, by simp [Ne.symm here, free]⟩
      · rintro ⟨same, free⟩
        cases before with
        | nil => exact absurd (List.cons.inj same).1 here
        | cons d before =>
          rw [List.cons_append, List.cons.injEq] at same
          obtain ⟨rfl, same⟩ := same
          rw [ih.mpr ⟨same, fun mem => free (List.mem_cons_of_mem _ mem)⟩]
          rfl

theorem pieces_eq_splitOn (separator : Char) (text : List Char) :
    pieces separator text = text.splitOn separator := by
  induction text with
  | nil => exact (List.splitOn_nil separator).symm
  | cons c rest ih =>
    rw [pieces, ih, List.splitOn_cons_eq_if_modifyHead]
    split
    · rfl
    · cases parts : rest.splitOn separator with
      | nil => exact absurd parts (List.splitOn_ne_nil separator rest)
      | cons piece more => rfl

theorem pieces_ne_nil (separator : Char) (text : List Char) : pieces separator text ≠ [] := by
  rw [pieces_eq_splitOn]
  exact List.splitOn_ne_nil separator text

theorem not_mem_of_mem_pieces {piece : List Char} (mem : piece ∈ pieces separator text) :
    separator ∉ piece := by
  induction text generalizing piece with
  | nil =>
    obtain rfl := List.mem_singleton.mp mem
    exact List.not_mem_nil
  | cons c rest ih =>
    rw [pieces] at mem
    split at mem
    · rcases List.mem_cons.mp mem with rfl | mem
      · exact List.not_mem_nil
      · exact ih mem
    · next other =>
      have other : separator ≠ c := fun same => other (beq_iff_eq.mpr same.symm)
      split at mem
      · next none => exact absurd none (pieces_ne_nil separator rest)
      · next first more parts =>
        rcases List.mem_cons.mp mem with rfl | mem
        · have free := ih (parts ▸ List.mem_cons_self)
          exact List.not_mem_cons_of_ne_of_not_mem other free
        · exact ih (parts ▸ List.mem_cons_of_mem _ mem)

theorem pieces_eq_iff {parts : List (List Char)} :
    pieces separator text = parts ↔
      parts ≠ [] ∧ (∀ part ∈ parts, separator ∉ part) ∧ [separator].intercalate parts = text := by
  constructor
  · rintro rfl
    refine ⟨pieces_ne_nil separator text, fun _ => not_mem_of_mem_pieces, ?_⟩
    rw [pieces_eq_splitOn]
    exact List.intercalate_splitOn separator
  · rintro ⟨nonempty, free, rfl⟩
    rw [pieces_eq_splitOn]
    exact List.splitOn_intercalate separator free nonempty

end Verdict.Text
