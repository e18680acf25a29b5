import Verdict.Proofs.Document.Reading

set_option autoImplicit false

namespace Verdict.Document

section Documents

variable {text rest : List Char} {d : Datum}

theorem Blanks.skip {gap : List Char} (h : Blanks gap) (text : List Char) :
    skipBlanks (gap ++ text) = skipBlanks text := by
  induction gap with
  | nil => rfl
  | cons c gap ih =>
    obtain ⟨first, others⟩ := List.forall_mem_cons.mp h
    have blank : isBlank c = true := by simpa [blanks, isBlank, or_assoc] using first
    rw [List.cons_append, skipBlanks, List.dropWhile_cons_of_pos blank]
    exact ih others

theorem Blanks.skip_cons {gap : List Char} {c : Char} (h : Blanks gap) (solid : isBlank c = false)
    (rest : List Char) : skipBlanks (gap ++ c :: rest) = c :: rest := by
  rw [h.skip, skipBlanks_cons solid]

theorem Blanks.numberEnds {gap : List Char} (h : Blanks gap) (ends : NumberEnds rest) :
    NumberEnds (gap ++ rest) := by
  cases gap with
  | nil => exact ends
  | cons blank gap =>
    rintro c ⟨⟩
    have mem := h blank List.mem_cons_self
    simp only [blanks, List.mem_cons, List.not_mem_nil, or_false] at mem
    rcases mem with rfl | rfl | rfl | rfl <;> decide

theorem Denotes.after_blanks {gap : List Char} (h : Denotes text d rest) (blank : Blanks gap) :
    Denotes (gap ++ text) d rest := by
  have skipped := blank.skip text
  cases h with
  | scalar scalar =>
    apply Denotes.scalar
    cases scalar with
    | null same => exact .null (skipped.trans same)
    | yes same => exact .yes (skipped.trans same)
    | no same => exact .no (skipped.trans same)
    | str same string => exact .str (skipped.trans same) string
    | negative same magnitude => exact .negative (skipped.trans same) magnitude
    | natural same digit magnitude => exact .natural (skipped.trans same) digit magnitude
  | noElements same closed => exact .noElements (skipped.trans same) closed
  | elements same elements => exact .elements (skipped.trans same) elements
  | noMembers same closed => exact .noMembers (skipped.trans same) closed
  | members same members => exact .members (skipped.trans same) members

theorem SpellsMagnitude.denotes {negative : Bool} {n : Number} (h : SpellsMagnitude negative text n)
    (ends : NumberEnds rest) :
    Denotes ((if negative then '-' :: text else text) ++ rest) (.num n) rest := by
  have magnitude := h.readMagnitude ends
  apply Denotes.scalar
  cases negative with
  | false =>
    obtain ⟨d, more, rfl, digit⟩ := h.first
    exact .natural (skipBlanks_cons (starts_digit digit).1 _) digit magnitude
  | true => exact .negative (skipBlanks_cons (by decide) _) magnitude

theorem SpellsKey.denotes {key : String} (h : SpellsKey text key) (value : List Char) :
    ∃ gap, Blanks gap ∧ DenotesKey (text ++ value) key (gap ++ value) := by
  cases h with
  | @mk before body between after key before' chars between' after' =>
    refine ⟨after, after', ?_⟩
    refine ⟨body ++ '"' :: (between ++ ':' :: (after ++ value)), between ++ ':' :: (after ++ value),
      ?_, ?_, ?_⟩
    · simpa using before'.skip_cons (by decide) _
    · exact chars.readString _
    · exact between'.skip_cons (by decide) _

theorem Spells.quoted (s : String) : Spells ('"' :: (s.toList.flatMap escapeChar ++ ['"'])) (.str s) := by
  have spelled := Spells.str (spellsChars_escape s.toList)
  rwa [String.ofList_toList] at spelled

theorem SpellsKey.quoted (key : String) {before gap : List Char} (h : Blanks before)
    (h' : Blanks gap) :
    SpellsKey (before ++ '"' :: (key.toList.flatMap escapeChar ++ '"' :: (gap ++ ':' :: gap))) key := by
  have spelled := SpellsKey.mk h (spellsChars_escape key.toList) h' h'
  rwa [String.ofList_toList] at spelled

theorem SpellsKey.append {key : String} {gap : List Char} (h : SpellsKey text key) (blank : Blanks gap) :
    SpellsKey (text ++ gap) key := by
  cases h with
  | @mk before body between after _ before' chars between' after' =>
    simp only [List.append_assoc, List.cons_append]
    exact .mk before' chars between' (List.forall_mem_append.mpr ⟨after', blank⟩)

mutual

theorem Spells.denotes : ∀ {text : List Char} {d : Datum}, Spells text d → ∀ rest, NumberEnds rest →
    Denotes (text ++ rest) d rest
  | _, _, .null, rest, _ => .scalar (.null (skipBlanks_cons (by decide) _))
  | _, _, .yes, rest, _ => .scalar (.yes (skipBlanks_cons (by decide) _))
  | _, _, .no, rest, _ => .scalar (.no (skipBlanks_cons (by decide) _))
  | _, _, .natural magnitude, rest, ends => magnitude.denotes ends
  | _, _, .negative magnitude, rest, ends => magnitude.denotes ends
  | _, _, .str chars, rest, _ => by
    simp only [List.cons_append, List.append_assoc, List.nil_append]
    exact .scalar (.str (skipBlanks_cons (by decide) _) (chars.readString rest))
  | _, _, .noElements blank, rest, _ => by
    simp only [List.cons_append, List.append_assoc, List.nil_append]
    exact .noElements (skipBlanks_cons (by decide) _) (blank.skip_cons (by decide) _)
  | _, _, .elements elements, rest, _ => by
    simp only [List.cons_append, List.append_assoc, List.nil_append]
    exact .elements (skipBlanks_cons (by decide) _) (elements.denotes rest)
  | _, _, .noMembers blank, rest, _ => by
    simp only [List.cons_append, List.append_assoc, List.nil_append]
    exact .noMembers (skipBlanks_cons (by decide) _) (blank.skip_cons (by decide) _)
  | _, _, .members members, rest, _ => by
    simp only [List.cons_append, List.append_assoc, List.nil_append]
    exact .members (skipBlanks_cons (by decide) _) (members.denotes rest)

theorem SpellsElements.denotes : ∀ {text : List Char} {xs : List Datum}, SpellsElements text xs →
    ∀ rest, DenotesElements (text ++ ']' :: rest) xs rest
  | _, _, .last before value after, rest => by
    simp only [List.append_assoc]
    exact .last ((value.denotes _ (after.numberEnds (.cons (by decide) rest))).after_blanks before)
      (after.skip_cons (by decide) rest)
  | _, _, .next before value after others, rest => by
    simp only [List.append_assoc, List.cons_append]
    exact .next ((value.denotes _ (after.numberEnds (.cons (by decide) _))).after_blanks before)
      (after.skip_cons (by decide) _) (others.denotes rest)

theorem SpellsMembers.denotes : ∀ {text : List Char} {ms : List (String × Datum)},
    SpellsMembers text ms → ∀ rest, DenotesMembers (text ++ '\x7d' :: rest) ms rest
  | _, _, .last key value after, rest => by
    simp only [List.append_assoc]
    obtain ⟨gap, blank, key⟩ := key.denotes (_ ++ (_ ++ '\x7d' :: rest))
    exact .last key ((value.denotes _ (after.numberEnds (.cons (by decide) rest))).after_blanks blank)
      (after.skip_cons (by decide) rest)
  | _, _, .next key value after others, rest => by
    simp only [List.append_assoc, List.cons_append]
    obtain ⟨gap, blank, key⟩ := key.denotes (_ ++ (_ ++ ',' :: (_ ++ '\x7d' :: rest)))
    exact .next key ((value.denotes _ (after.numberEnds (.cons (by decide) _))).after_blanks blank)
      (after.skip_cons (by decide) _) (others.denotes rest)

end

theorem IsText.isDocument (h : IsText text d) : IsDocument text d := by
  cases h with
  | @mk before text after _ blank value blank' =>
    have ends : NumberEnds (after ++ []) := blank'.numberEnds nofun
    rw [List.append_nil] at ends
    have skipped := blank'.skip []
    rw [List.append_nil] at skipped
    exact ⟨after, (value.denotes after ends).after_blanks blank, skipped⟩

theorem skipBlanks_split (text : List Char) : ∃ gap, Blanks gap ∧ text = gap ++ skipBlanks text := by
  refine ⟨text.takeWhile isBlank, fun c mem => ?_, (List.takeWhile_append_dropWhile).symm⟩
  have blank := all_takeWhile text c mem
  simpa [blanks, isBlank, or_assoc] using blank

theorem exists_of_skipBlanks {c : Char} (skipped : skipBlanks text = c :: rest) :
    ∃ gap, Blanks gap ∧ text = gap ++ c :: rest := by
  obtain ⟨gap, blank, split⟩ := skipBlanks_split text
  exact ⟨gap, blank, skipped ▸ split⟩

theorem DenotesKey.spelled {value : List Char} {key : String} (h : DenotesKey text key value) :
    ∃ start, text = start ++ value ∧ SpellsKey start key := by
  obtain ⟨body, more, quote, string, colon⟩ := h
  obtain ⟨before, blank, rfl⟩ := exists_of_skipBlanks quote
  obtain ⟨chars, cs, rfl, spelled, rfl⟩ := readString_eq_ok string
  obtain ⟨between, blank', rfl⟩ := exists_of_skipBlanks colon
  exact ⟨_, by simp, .mk blank spelled blank' .nil⟩

theorem DenotesScalar.spelled (h : DenotesScalar text d rest) :
    ∃ gap core, text = gap ++ (core ++ rest) ∧ Blanks gap ∧ Spells core d := by
  cases h with
  | null skipped =>
    obtain ⟨gap, blank, rfl⟩ := exists_of_skipBlanks skipped
    exact ⟨gap, _, rfl, blank, .null⟩
  | yes skipped =>
    obtain ⟨gap, blank, rfl⟩ := exists_of_skipBlanks skipped
    exact ⟨gap, _, rfl, blank, .yes⟩
  | no skipped =>
    obtain ⟨gap, blank, rfl⟩ := exists_of_skipBlanks skipped
    exact ⟨gap, _, rfl, blank, .no⟩
  | str skipped string =>
    obtain ⟨gap, blank, rfl⟩ := exists_of_skipBlanks skipped
    obtain ⟨chars, cs, rfl, spelled, rfl⟩ := readString_eq_ok string
    exact ⟨gap, _, by simp, blank, .str spelled⟩
  | negative skipped magnitude =>
    obtain ⟨gap, blank, rfl⟩ := exists_of_skipBlanks skipped
    obtain ⟨body, rfl, spelled⟩ := readMagnitude_eq_ok magnitude
    exact ⟨gap, _, rfl, blank, .negative spelled⟩
  | natural skipped _ magnitude =>
    obtain ⟨gap, blank, rfl⟩ := exists_of_skipBlanks skipped
    obtain ⟨body, split, spelled⟩ := readMagnitude_eq_ok magnitude
    exact ⟨gap, body, by rw [split], blank, .natural spelled⟩

theorem Denotes.spelled :
    (∀ {text d rest}, Denotes text d rest →
        ∃ gap core, text = gap ++ (core ++ rest) ∧ Blanks gap ∧ Spells core d) ∧
      (∀ {text xs rest}, DenotesElements text xs rest →
        ∃ body, text = body ++ ']' :: rest ∧ SpellsElements body xs) ∧
      ∀ {text ms rest}, DenotesMembers text ms rest →
        ∃ body, text = body ++ '\x7d' :: rest ∧ SpellsMembers body ms := by
  apply Denotes.induct
    (fun text d rest => ∃ gap core, text = gap ++ (core ++ rest) ∧ Blanks gap ∧ Spells core d)
    (fun text xs rest => ∃ body, text = body ++ ']' :: rest ∧ SpellsElements body xs)
    (fun text ms rest => ∃ body, text = body ++ '\x7d' :: rest ∧ SpellsMembers body ms)
  case scalar => exact DenotesScalar.spelled
  case noElements =>
    intro text body rest opened closed
    obtain ⟨gap, blank, rfl⟩ := exists_of_skipBlanks opened
    obtain ⟨gap', blank', rfl⟩ := exists_of_skipBlanks closed
    exact ⟨gap, _, by simp, blank, .noElements blank'⟩
  case someElements =>
    intro text body rest xs opened _ ih
    obtain ⟨gap, blank, rfl⟩ := exists_of_skipBlanks opened
    obtain ⟨body, rfl, spelled⟩ := ih
    exact ⟨gap, _, by simp, blank, .elements spelled⟩
  case noMembers =>
    intro text body rest opened closed
    obtain ⟨gap, blank, rfl⟩ := exists_of_skipBlanks opened
    obtain ⟨gap', blank', rfl⟩ := exists_of_skipBlanks closed
    exact ⟨gap, _, by simp, blank, .noMembers blank'⟩
  case someMembers =>
    intro text body rest ms opened _ ih
    obtain ⟨gap, blank, rfl⟩ := exists_of_skipBlanks opened
    obtain ⟨body, rfl, spelled⟩ := ih
    exact ⟨gap, _, by simp, blank, .members spelled⟩
  case lastElement =>
    intro text more rest d _ closed ih
    obtain ⟨before, core, rfl, blank, spelled⟩ := ih
    obtain ⟨after, blank', rfl⟩ := exists_of_skipBlanks closed
    exact ⟨_, by simp, .last blank spelled blank'⟩
  case nextElement =>
    intro text more tail rest d xs _ comma _ ih tailIh
    obtain ⟨before, core, rfl, blank, spelled⟩ := ih
    obtain ⟨after, blank', rfl⟩ := exists_of_skipBlanks comma
    obtain ⟨body, rfl, others⟩ := tailIh
    exact ⟨_, by simp, .next blank spelled blank' others⟩
  -- the blanks after a colon are read before the value and spelled with the key
  case lastMember =>
    intro text start more rest key d colon _ closed ih
    obtain ⟨start, rfl, key⟩ := colon.spelled
    obtain ⟨before, core, rfl, blank, spelled⟩ := ih
    obtain ⟨after, blank', rfl⟩ := exists_of_skipBlanks closed
    exact ⟨_, by simp, .last (key.append blank) spelled blank'⟩
  case nextMember =>
    intro text start more tail rest key d ms colon _ comma _ ih tailIh
    obtain ⟨start, rfl, key⟩ := colon.spelled
    obtain ⟨before, core, rfl, blank, spelled⟩ := ih
    obtain ⟨after, blank', rfl⟩ := exists_of_skipBlanks comma
    obtain ⟨body, rfl, others⟩ := tailIh
    exact ⟨_, by simp, .next (key.append blank) spelled blank' others⟩

theorem isDocument_iff : IsDocument text d ↔ IsText text d := by
  refine ⟨?_, IsText.isDocument⟩
  rintro ⟨rest, derived, ends⟩
  obtain ⟨before, core, rfl, blank, spelled⟩ := Denotes.spelled.1 derived
  obtain ⟨after, blank', split⟩ := skipBlanks_split rest
  rw [ends, List.append_nil] at split
  exact .mk blank spelled (split ▸ blank')

theorem IsText.unique {e : Datum} (h : IsText text d) (h' : IsText text e) : d = e :=
  h.isDocument.unique h'.isDocument

/-- Exactly the texts of the grammar are read, as far as containers may nest. -/
theorem read_eq_ok_iff : read text = .ok d ↔ IsText text d ∧ d.nesting ≤ maxDepth := by
  rw [← isDocument_iff]
  constructor
  · intro h
    unfold read at h
    split at h
    · cases h
    · next d rest value =>
      split at h
      · next ends =>
        cases h
        obtain ⟨derived, nested⟩ := (readers_sound _).1 value
        exact ⟨⟨rest, derived, by simpa [isEnd] using ends⟩, nested⟩
      · cases h
  · rintro ⟨⟨rest, derived, ends⟩, nested⟩
    have value := Denotes.readers_complete.1 derived (text.length + 1) maxDepth (by omega) nested
    simp [read, value, isEnd, ends]

end Documents

end Verdict.Document
