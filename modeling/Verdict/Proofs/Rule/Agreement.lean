import Verdict.Proofs.Document.Blanks
import Verdict.Proofs.Rule.Canonical
import Verdict.Proofs.Rule.Entry

set_option autoImplicit false

namespace Verdict.Rule

open Datum (Value)
open Document

variable {json : String}

theorem ofDatum_canonical {d : Datum} (distinct : d.KeysDistinct) :
    (ofDatum d.canonical).toOption = (ofDatum d).toOption := by
  unfold ofDatum
  rw [toOption_map, toOption_map, (Node.readAsValue_of_keysDistinct distinct).node .root]

theorem ofJson_toOption {v : Value} (text : IsText json.toList v) (nested : v.datum.nesting ≤ 127) :
    (ofJson json).toOption = (ofDatum v.datum.canonical).toOption := by
  rw [ofDatum_canonical v.keysDistinct]
  exact ofText_toOption text.isDocument v.keysDistinct nested

theorem eq_ok_iff_of_toOption {ε ε' α : Type} {x : Except ε α} {y : Except ε' α}
    (same : x.toOption = y.toOption) (a : α) : x = .ok a ↔ y = .ok a := by
  rw [← toOption_eq_some_iff, same, toOption_eq_some_iff]

/-- Reading a text and decoding the value it denotes accept the same rules. Nor does it matter in which
order the members of an object stand, or which blanks stand between the parts. Every number in range
denotes one. -/
theorem ofJson_eq_ok_iff_ofDatum_canonical :
    (∀ (text : List Char) (p : Parts), Written text p → p.InRange →
      ∃ n, SpellsMagnitude p.negative text n) ∧
    ∀ (json : String) (v : Value), IsText json.toList v → v.datum.nesting ≤ 127 →
      (∀ r, ofJson json = .ok r ↔ ofDatum v.datum.canonical = .ok r) ∧
      ∀ (other : String) (e : Datum), IsText other.toList e →
        v.datum.Reordered e ∨ compact other.toList = compact json.toList →
        ∀ r, ofJson other = .ok r ↔ ofJson json = .ok r := by
  refine ⟨fun text p written => written.exists_spellsMagnitude, fun json v text nested => ?_⟩
  have agree := ofJson_toOption text nested
  constructor
  · exact eq_ok_iff_of_toOption agree
  · intro other e otherText alike
    apply eq_ok_iff_of_toOption
    rcases alike with reordered | blanks
    · obtain ⟨distinct, same⟩ := reordered.canonical_eq v.keysDistinct
      have otherNested : e.nesting ≤ 127 := reordered.nesting_eq ▸ nested
      rw [ofJson_toOption (v := ⟨e, distinct⟩) otherText otherNested, same, agree]
    · obtain rfl := otherText.eq_of_compact_eq text blanks
      rw [ofJson_toOption otherText nested, agree]

-- The operand is a list with a number for its tag, and the tag of the outermost object comes last in
-- the one text and first in the other. Blanks differ too, and an escape.
theorem ofJson_eq_ok_of_scattered_members :
    let x : Binary64 := ⟨false, 0x3ff8000000000000, by decide⟩
    let rule := ofNode (.not (.literal .float (.num (.float x (by decide)))))
    ofJson "\x7b\"right\" : [2,\"float\", 15e-1],\"operator\":\"\\u0021\",\"node_type\":\"operator\"\x7d" =
        .ok rule ∧
      ofJson "\x7b\"node_type\":\"operator\",\n\"operator\":\"!\",\"right\":[2,\"float\",15e-1]\x7d" =
        .ok rule := by
  intro x rule
  have finite : x.isFinite = true := by decide
  have two : SpellsMagnitude false ['2'] (.int 2 (by decide)) :=
    .int (p := ⟨false, ['2'], [], none⟩) (.mk ⟨by simp, by simp⟩ (by simp) .absent .absent)
      ⟨rfl, rfl, by decide, by decide⟩
  have power : SpellsMagnitude false ['1', '5', 'e', '-', '1'] (.float x finite) := by
    have fifteen : Digits ['1', '5'] := ⟨by simp, by simp⟩
    have one : Numeral.Spells 10 ['1'] 1 := ⟨by decide, [1], rfl, rfl⟩
    have written : Written ['1', '5', 'e', '-', '1'] ⟨false, ['1', '5'], [], some (-1)⟩ :=
      .mk fifteen (by simp) .absent (.mark (.inl rfl) .minus one)
    refine .float finite written (by simp [Parts.IsInteger]) ⟨⟨15, 2, 0⟩, ⟨15, 0, 0⟩,
      ⟨['1', '5'], [], rfl, rfl, by decide, nofun⟩, ⟨[], [], rfl, rfl, by decide, nofun⟩, ?_⟩
    rw [Scaled, if_pos (by decide)]
    decide +kernel
  have hex : Unit ['0', '0', '2', '1'] 0x21 := ⟨rfl, by decide, [0, 0, 2, 1], rfl, rfl⟩
  have bang : Spells "\"\\u0021\"".toList (.str "!") := .str (.cons (.unit hex (by decide)) .nil)
  have space : Blanks [' '] := by decide
  have line : Blanks ['\n'] := by decide
  have tag := SpellsKey.quoted "node_type" .nil .nil
  let members : List (String × Datum) := [("node_type", .str "operator"), ("operator", .str "!"),
    ("right", .arr [.num (.int 2 (by decide)), .str "float", .num (.float x finite)])]
  have text : IsText
      "\x7b\"node_type\":\"operator\",\n\"operator\":\"!\",\"right\":[2,\"float\",15e-1]\x7d".toList
        (.obj members) := by
    have list := Spells.elements (.next .nil (.natural two) .nil (.next .nil (.quoted "float") .nil
      (.last .nil (.natural power) .nil)))
    have core := Spells.members (.next tag (.quoted "operator") .nil (.next (.quoted "operator" line .nil)
      (.quoted "!") .nil (.last (.quoted "right" .nil .nil) list .nil)))
    convert IsText.mk .nil core .nil using 1
    decide +kernel
  have scattered : IsText
      "\x7b\"right\" : [2,\"float\", 15e-1],\"operator\":\"\\u0021\",\"node_type\":\"operator\"\x7d".toList
        (.obj members.reverse) := by
    have list := Spells.elements (.next .nil (.natural two) .nil (.next .nil (.quoted "float") .nil
      (.last space (.natural power) .nil)))
    have core := Spells.members (.next (.quoted "right" .nil space) list .nil
      (.next (.quoted "operator" .nil .nil) bang .nil (.last tag (.quoted "operator") .nil)))
    convert IsText.mk .nil core .nil using 1
    · decide +kernel
    · rfl
  have nested : (Datum.obj members).nesting ≤ 127 := by
    simp [members, Datum.nesting, Datum.nestingMembers, Datum.nestingList]
  obtain ⟨agree, order⟩ := ofJson_eq_ok_iff_ofDatum_canonical.2 _
    ⟨.obj members, Datum.keysDistinct_of_canonical rfl⟩ text nested
  have first := (agree rule).mpr rfl
  have reordered : (Datum.obj members).Reordered (.obj members.reverse) :=
    .members (List.reverse_perm members).symm
  exact ⟨(order _ _ scattered (.inl reordered) rule).mpr first, first⟩

end Verdict.Rule
