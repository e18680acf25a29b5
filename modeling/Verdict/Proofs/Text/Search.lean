import Verdict.Text.Search

set_option autoImplicit false

namespace Verdict.Text

section Stretch

variable {p : Char → Bool} {text rest : List Char}

theorem takeWhile_append_of_stop (all : ∀ c ∈ text, p c) (stop : ∀ c ∈ rest.head?, p c = false) :
    (text ++ rest).takeWhile p = text := by
  rw [List.takeWhile_append_of_pos all]
  cases rest with
  | nil => simp
  | cons c rest => simp [stop c rfl]

theorem dropWhile_append_of_stop (all : ∀ c ∈ text, p c) (stop : ∀ c ∈ rest.head?, p c = false) :
    (text ++ rest).dropWhile p = rest := by
  rw [List.dropWhile_append_of_pos all]
  cases rest with
  | nil => rfl
  | cons c rest => simp [stop c rfl]

end Stretch

section Joined

variable {separator : List Char}

theorem joinWith_eq_intercalate (separator : List Char) (pieces : List (List Char)) :
    joinWith separator pieces = separator.intercalate pieces := by
  fun_induction joinWith separator pieces with
  | case1 => rfl
  | case2 => simp [List.intercalate]
  | case3 piece more several ih =>
    obtain ⟨next, more, rfl⟩ := List.exists_cons_of_ne_nil fun empty => several (empty ▸ rfl)
    rw [ih, List.intercalate_cons_cons]

theorem length_le_joinWith {piece : List Char} {pieces : List (List Char)} (mem : piece ∈ pieces) :
    piece.length ≤ (joinWith separator pieces).length := by
  fun_induction joinWith separator pieces with
  | case1 => simp at mem
  | case2 => simp_all
  | case3 head more _ ih =>
    simp only [List.length_append]
    rcases List.mem_cons.mp mem with rfl | mem
    · omega
    · have := ih mem
      omega

theorem length_pieces_le_joinWith (pieces : List (List Char)) (nonempty : separator ≠ []) :
    pieces.length ≤ (joinWith separator pieces).length + 1 := by
  have : 0 < separator.length := List.length_pos_iff.mpr nonempty
  fun_induction joinWith separator pieces with
  | case1 => simp
  | case2 => simp
  | case3 head more _ ih =>
    simp only [List.length_append, List.length_cons]
    omega

end Joined

end Verdict.Text
