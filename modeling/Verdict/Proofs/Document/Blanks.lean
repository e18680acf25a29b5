import Verdict.Proofs.Document.Spelled

set_option autoImplicit false

namespace Verdict.Document

mutual

/-- A text without its blanks, but for those within strings. -/
def compact : List Char → List Char
  | [] => []
  | c :: rest =>
      if c ∈ blanks then compact rest
      else if c = '"' then c :: compactQuoted rest
      else c :: compact rest

def compactQuoted : List Char → List Char
  | [] => []
  | '"' :: rest => '"' :: compact rest
  | '\\' :: c :: rest => '\\' :: c :: compactQuoted rest
  | c :: rest => c :: compactQuoted rest

end

theorem Blanks.compact_append {gap : List Char} (h : Blanks gap) (rest : List Char) :
    compact (gap ++ rest) = compact rest := by
  induction gap with
  | nil => rfl
  | cons c gap ih =>
    obtain ⟨blank, others⟩ := List.forall_mem_cons.mp h
    rw [List.cons_append, compact, if_pos blank, ih others]

theorem compact_quote (rest : List Char) : compact ('"' :: rest) = '"' :: compactQuoted rest := by
  rw [compact, if_neg (by decide), if_pos rfl]

theorem compact_cons {c : Char} (solid : c ∉ blanks) (plain : c ≠ '"') (rest : List Char) :
    compact (c :: rest) = c :: compact rest := by
  rw [compact, if_neg solid, if_neg plain]

section Strings

theorem compactQuoted_cons {c : Char} (notQuote : c ≠ '"') (notBackslash : c ≠ '\\')
    (rest : List Char) : compactQuoted (c :: rest) = c :: compactQuoted rest := by
  rw [compactQuoted.eq_def]
  split
  case h_1 same => cases same
  case h_2 same => exact absurd (List.cons.inj same).1 notQuote
  case h_3 same => exact absurd (List.cons.inj same).1 notBackslash
  case h_4 same =>
    cases same
    rfl

theorem Unit.compactQuoted_append {digits : List Char} {n : Nat} (h : Unit digits n)
    (rest : List Char) : compactQuoted (digits ++ rest) = digits ++ compactQuoted rest := by
  obtain ⟨a, b, c, d, rfl, unit⟩ := h.hexUnit?
  have plain {c : Char} {n : Nat} (value : hexValue? c = some n) : c ≠ '"' ∧ c ≠ '\\' := by
    have quote : hexValue? '"' = none := by decide
    have backslash : hexValue? '\\' = none := by decide
    constructor <;> rintro rfl <;> simp [quote, backslash] at value
  unfold Document.hexUnit? at unit
  split at unit
  · next first second third fourth =>
    simp only [List.cons_append, List.nil_append]
    rw [compactQuoted_cons (plain first).1 (plain first).2,
      compactQuoted_cons (plain second).1 (plain second).2,
      compactQuoted_cons (plain third).1 (plain third).2,
      compactQuoted_cons (plain fourth).1 (plain fourth).2]
  · cases unit

theorem SpellsChar.compactQuoted_append {text : List Char} {c : Char} (h : SpellsChar text c)
    (rest : List Char) : compactQuoted (text ++ rest) = text ++ compactQuoted rest := by
  cases h with
  | plain _ notQuote notBackslash => exact compactQuoted_cons notQuote notBackslash rest
  | escape _ => rfl
  | unit unit _ =>
    rw [List.cons_append, List.cons_append, compactQuoted, unit.compactQuoted_append]
    rfl
  | pair high _ _ low _ _ =>
    rw [List.cons_append, List.cons_append, compactQuoted, List.append_assoc,
      high.compactQuoted_append, List.cons_append, List.cons_append, compactQuoted,
      low.compactQuoted_append]
    simp

theorem SpellsChars.compactQuoted_append {text cs : List Char} (h : SpellsChars text cs)
    (rest : List Char) : compactQuoted (text ++ '"' :: rest) = text ++ '"' :: compact rest := by
  induction h with
  | nil => rw [List.nil_append, compactQuoted, List.nil_append]
  | cons char _ ih => rw [List.append_assoc, char.compactQuoted_append, ih, List.append_assoc]

end Strings

section Numbers

def Solid (text : List Char) : Prop := ∀ c ∈ text, c ∉ blanks ∧ c ≠ '"'

instance (text : List Char) : Decidable (Solid text) := List.decidableBAll _ text

theorem Solid.compact_append {text : List Char} (h : Solid text) (rest : List Char) :
    compact (text ++ rest) = text ++ compact rest := by
  induction text with
  | nil => rfl
  | cons c text ih =>
    obtain ⟨solid, others⟩ := List.forall_mem_cons.mp h
    rw [List.cons_append, compact_cons solid.1 solid.2, ih others, List.cons_append]

theorem solid_digits {digits : List Char} (h : ∀ c ∈ digits, c.isDigit) : Solid digits := by
  intro c mem
  have digit := h c mem
  constructor
  · intro blank
    simp only [blanks, List.mem_cons, List.not_mem_nil, or_false] at blank
    rcases blank with rfl | rfl | rfl | rfl <;> exact absurd digit (by decide)
  · rintro rfl
    exact absurd digit (by decide)

theorem Power.solid {text : List Char} {power : Option Int} (h : Power text power) : Solid text := by
  cases h with
  | absent => exact nofun
  | mark marked signed spelled =>
    refine List.forall_mem_cons.mpr ⟨?_, List.forall_mem_append.mpr ⟨?_, ?_⟩⟩
    · rcases marked with rfl | rfl <;> decide
    · change Solid _
      cases signed <;> decide
    · exact solid_digits (Numeral.spells_ten_iff.mp spelled).2.1

theorem Written.solid {text : List Char} {p : Parts} (h : Written text p) : Solid text := by
  cases h with
  | mk whole _ fraction power =>
    refine List.forall_mem_append.mpr ⟨solid_digits whole.2, List.forall_mem_append.mpr ⟨?_, power.solid⟩⟩
    cases fraction with
    | absent => exact nofun
    | point digits => exact List.forall_mem_cons.mpr ⟨by decide, solid_digits digits.2⟩

theorem SpellsMagnitude.solid {negative : Bool} {text : List Char} {n : Number}
    (h : SpellsMagnitude negative text n) : Solid text := by
  cases h with
  | int written _ => exact written.solid
  | float _ written _ _ => exact written.solid

end Numbers

theorem SpellsKey.compacted {text : List Char} {key : String} (h : SpellsKey text key) :
    ∃ start, SpellsKey start key ∧ ∀ rest, compact (text ++ rest) = start ++ compact rest := by
  cases h with
  | @mk before body between after key before' chars between' after' =>
    refine ⟨_, .mk .nil chars .nil .nil, fun rest => ?_⟩
    simp only [List.append_assoc, List.cons_append, List.nil_append]
    rw [before'.compact_append, compact_quote, chars.compactQuoted_append, between'.compact_append,
      compact_cons (by decide) (by decide), after'.compact_append]

mutual

theorem Spells.compacted : ∀ {text : List Char} {d : Datum}, Spells text d →
    ∃ core, Spells core d ∧ ∀ rest, compact (text ++ rest) = core ++ compact rest
  | _, _, .null => ⟨_, .null, Solid.compact_append (by decide)⟩
  | _, _, .yes => ⟨_, .yes, Solid.compact_append (by decide)⟩
  | _, _, .no => ⟨_, .no, Solid.compact_append (by decide)⟩
  | _, _, .natural magnitude => ⟨_, .natural magnitude, magnitude.solid.compact_append⟩
  | _, _, .negative magnitude =>
    ⟨_, .negative magnitude, Solid.compact_append (List.forall_mem_cons.mpr ⟨by decide, magnitude.solid⟩)⟩
  | _, _, .str chars => by
    refine ⟨_, .str chars, fun rest => ?_⟩
    simp only [List.cons_append, List.append_assoc, List.nil_append]
    rw [compact_quote, chars.compactQuoted_append]
  | _, _, .noElements blank => by
    refine ⟨_, .noElements .nil, fun rest => ?_⟩
    simp only [List.cons_append, List.append_assoc, List.nil_append]
    rw [compact_cons (by decide) (by decide), blank.compact_append, compact_cons (by decide) (by decide)]
  | _, _, .elements elements => by
    obtain ⟨body, spelled, split⟩ := elements.compacted
    refine ⟨_, .elements spelled, fun rest => ?_⟩
    simp only [List.cons_append, List.append_assoc, List.nil_append]
    rw [compact_cons (by decide) (by decide), split, compact_cons (by decide) (by decide)]
  | _, _, .noMembers blank => by
    refine ⟨_, .noMembers .nil, fun rest => ?_⟩
    simp only [List.cons_append, List.append_assoc, List.nil_append]
    rw [compact_cons (by decide) (by decide), blank.compact_append, compact_cons (by decide) (by decide)]
  | _, _, .members members => by
    obtain ⟨body, spelled, split⟩ := members.compacted
    refine ⟨_, .members spelled, fun rest => ?_⟩
    simp only [List.cons_append, List.append_assoc, List.nil_append]
    rw [compact_cons (by decide) (by decide), split, compact_cons (by decide) (by decide)]

theorem SpellsElements.compacted : ∀ {text : List Char} {xs : List Datum}, SpellsElements text xs →
    ∃ body, SpellsElements body xs ∧ ∀ rest, compact (text ++ rest) = body ++ compact rest
  | _, _, .last before value after => by
    obtain ⟨core, spelled, split⟩ := value.compacted
    refine ⟨_, .last .nil spelled .nil, fun rest => ?_⟩
    simp only [List.append_assoc, List.nil_append]
    rw [before.compact_append, split, after.compact_append]
  | _, _, .next before value after others => by
    obtain ⟨core, spelled, split⟩ := value.compacted
    obtain ⟨body, more, rest⟩ := others.compacted
    refine ⟨_, .next .nil spelled .nil more, fun rest' => ?_⟩
    simp only [List.append_assoc, List.nil_append, List.cons_append]
    rw [before.compact_append, split, after.compact_append, compact_cons (by decide) (by decide), rest]

theorem SpellsMembers.compacted : ∀ {text : List Char} {ms : List (String × Datum)},
    SpellsMembers text ms →
    ∃ body, SpellsMembers body ms ∧ ∀ rest, compact (text ++ rest) = body ++ compact rest
  | _, _, .last key value after => by
    obtain ⟨start, keyed, splitKey⟩ := key.compacted
    obtain ⟨core, spelled, split⟩ := value.compacted
    refine ⟨_, .last keyed spelled .nil, fun rest => ?_⟩
    simp only [List.append_assoc, List.nil_append]
    rw [splitKey, split, after.compact_append]
  | _, _, .next key value after others => by
    obtain ⟨start, keyed, splitKey⟩ := key.compacted
    obtain ⟨core, spelled, split⟩ := value.compacted
    obtain ⟨body, more, rest⟩ := others.compacted
    refine ⟨_, .next keyed spelled .nil more, fun rest' => ?_⟩
    simp only [List.append_assoc, List.nil_append, List.cons_append]
    rw [splitKey, split, after.compact_append, compact_cons (by decide) (by decide), rest]

end

theorem IsText.compacted {text : List Char} {d : Datum} (h : IsText text d) :
    IsText (compact text) d := by
  cases h with
  | mk before value after =>
    obtain ⟨core, spelled, split⟩ := value.compacted
    have nothing := after.compact_append []
    rw [List.append_nil, compact] at nothing
    rw [before.compact_append, split, nothing]
    exact .mk .nil spelled .nil

/-- Texts that differ only in the blanks between their parts are texts of one datum. -/
theorem IsText.eq_of_compact_eq {text other : List Char} {d e : Datum} (h : IsText text d)
    (h' : IsText other e) (same : compact text = compact other) : d = e := by
  have left := h.compacted
  rw [same] at left
  exact left.unique h'.compacted

end Verdict.Document
