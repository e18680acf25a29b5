import Verdict.Proofs.Document.Reading
import Verdict.Proofs.Rule.Members
import Verdict.Rule.Basic

/-!
Reading a rule from a text and decoding it from the datum of the text accept the same rules, though
the first looks at the tag of the outermost node before the rest of the text is read.
-/

set_option autoImplicit false

namespace Verdict

open Datum (keys)
open Node (decode decodeTag tagKey gathered)
open Document

namespace Rule

theorem decodeTag_root_num (n : Number) : (decodeTag .root (.num n)).toOption = none := by
  cases n <;> rfl

theorem readTag_toOption {text rest : List Char} {d : Datum} (h : Denotes text d rest) :
    (readTag text).toOption = (decodeTag .root d).toOption.map fun _ => (d, rest) := by
  unfold readTag
  cases h with
  | noElements opened _ => simp only [opened]; rfl
  | elements opened _ => simp only [opened]; rfl
  | noMembers opened _ => simp only [opened]; rfl
  | members opened _ => simp only [opened]; rfl
  | scalar scalar =>
    split
    case h_1 opened => exact absurd opened (scalar.skipBlanks_ne (.inl rfl))
    case h_2 opened => exact absurd opened (scalar.skipBlanks_ne (.inr rfl))
    case h_3 =>
      rw [readValue_skipBlanks, scalar.readValue]
      cases scalar with
      | null _ | yes _ | no _ | str _ _ => rfl
      | negative _ _ | natural _ _ _ =>
        rw [decodeTag_root_num]
        rfl

theorem readRootKey_eq {text value : List Char} {key : String} (h : DenotesKey text key value)
    {seen : Bool} (fresh : seen → key ≠ tagKey) : readRootKey seen text = .ok (key, value) := by
  have first : (seen && key == tagKey) = false := by
    cases seen with
    | false => rfl
    | true => simpa using fresh rfl
  have whole := readKey_eq_ok_iff.mpr h
  obtain ⟨body, more, quote, string, _⟩ := h
  simp [readRootKey, quote, string, first, whole]

def tagged {α : Type} (ms : List (String × Datum)) (read : α) : Option α :=
  (gathered none (decodeTag .root) (ms.lookup tagKey)).map fun _ => read

theorem tagged_cons {α : Type} {key : String} {d : Datum} {rest : List (String × Datum)}
    (fresh : key ∉ keys rest) (read : α) :
    tagged ((key, d) :: rest) read =
      if key = tagKey ∧ (decodeTag .root d).toOption = none then none else tagged rest read := by
  unfold tagged
  by_cases tag : key = tagKey
  · subst tag
    rw [Datum.lookup_cons_self, Datum.lookup_eq_none fresh]
    cases decoded : decodeTag .root d <;> simp [gathered, Node.once, decoded, Except.toOption]
  · rw [Datum.lookup_cons_ne tag]
    simp [tag]

theorem readRootValue_toOption {text rest : List Char} {d : Datum} (h : Denotes text d rest)
    (key : String) {fuel depth : Nat} (enough : text.length ≤ fuel + rest.length)
    (nested : d.nesting ≤ depth) :
    (readRootValue key fuel depth text).toOption =
      if key = tagKey ∧ (decodeTag .root d).toOption = none then none else some (d, rest) := by
  unfold readRootValue
  split
  · next tag =>
    rw [readTag_toOption h]
    cases decodeTag .root d <;> simp [tag, Except.toOption]
  · next other =>
    rw [Denotes.readers_complete.1 h fuel depth enough nested]
    simp [other, Except.toOption]

theorem readRootMembers_succ {text start : List Char} {key : String} {seen : Bool}
    (named : readRootKey seen text = .ok (key, start)) (fuel depth : Nat)
    (earlier : List (String × Datum)) :
    (readRootMembers (fuel + 1) depth seen earlier text).toOption =
      (readRootValue key fuel depth start).toOption.bind fun (d, more) =>
        match skipBlanks more with
        | '\x7d' :: rest => some (((key, d) :: earlier).reverse, rest)
        | ',' :: rest =>
            (readRootMembers fuel depth (seen || key == tagKey) ((key, d) :: earlier) rest).toOption
        | _ => none := by
  rw [readRootMembers, named]
  simp only
  cases readRootValue key fuel depth start with
  | error fault => rfl
  | ok read =>
    simp only [toOption_ok, Option.bind_some]
    generalize skipBlanks read.2 = more
    split
    · rfl
    · rfl
    · rfl
    · next notClose notComma =>
      split
      · exact (notClose _ rfl).elim
      · exact (notComma _ rfl).elim
      · rfl

theorem readRootMembers_toOption {text rest : List Char} {ms : List (String × Datum)}
    (h : DenotesMembers text ms rest) (distinct : (keys ms).Nodup) (fuel depth : Nat)
    (enough : text.length ≤ fuel + rest.length) (nested : Datum.nestingMembers ms ≤ depth)
    (seen : Bool) (fresh : seen → tagKey ∉ keys ms) (earlier : List (String × Datum)) :
    (readRootMembers fuel depth seen earlier text).toOption =
      tagged ms (earlier.reverse ++ ms, rest) := by
  -- a tag is met at most once, so whether it has been seen tells whether it is still to come
  induction ms generalizing fuel seen earlier text with
  | nil => cases h
  | cons m others ih =>
    obtain ⟨key, d⟩ := m
    obtain ⟨only, othersDistinct⟩ := List.nodup_cons.mp distinct
    simp only [Datum.nestingMembers] at nested
    have used := h.length_lt
    have other : seen → key ≠ tagKey := by
      intro again same
      exact fresh again (by simp [same])
    obtain ⟨fuel, rfl⟩ : ∃ n, fuel = n + 1 := ⟨fuel - 1, by omega⟩
    cases h with
    | last colon derived closed =>
      have first := colon.length_lt
      have last := length_lt_of_skipBlanks closed
      rw [readRootMembers_succ (readRootKey_eq colon other),
        readRootValue_toOption derived key (by omega) (by omega), tagged_cons only]
      split
      · rfl
      · simp [closed, tagged, gathered]
    | next colon derived comma further =>
      have first := colon.length_lt
      have second := derived.length_lt
      have third := length_lt_of_skipBlanks comma
      have fourth := further.length_lt
      have again : (seen || key == tagKey) → tagKey ∉ keys others := by
        intro met mem
        rcases Bool.or_eq_true _ _ ▸ met with met | met
        · exact fresh met (List.mem_cons_of_mem _ mem)
        · exact only (beq_iff_eq.mp met ▸ mem)
      rw [readRootMembers_succ (readRootKey_eq colon other),
        readRootValue_toOption derived key (by omega) (by omega), tagged_cons only]
      split
      · rfl
      · simp only [Option.bind_some, comma]
        rw [ih further othersDistinct fuel (by omega) (by omega) _ again]
        simp

theorem readRootElements_toOption {text rest : List Char} {d : Datum} {others : List Datum}
    (h : DenotesElements text (d :: others) rest) {fuel depth : Nat}
    (enough : text.length ≤ fuel + rest.length) (nested : Datum.nestingList (d :: others) ≤ depth) :
    (readRootElements fuel depth text).toOption =
      (decodeTag .root d).toOption.map fun _ => (d :: others, rest) := by
  have tag {more : List Char} (derived : Denotes text d more) := readTag_toOption derived
  unfold readRootElements
  cases decoded : (decodeTag .root d).toOption with
  | none =>
    rw [decoded] at tag
    cases read : readTag text with
    | error fault => rfl
    | ok r =>
      rw [read] at tag
      cases h with
      | last derived _ | next derived _ _ => cases tag derived
  | some found =>
    rw [decoded] at tag
    cases h with
    | last derived closed =>
      rw [toOption_eq_some_iff.mp (tag derived)]
      simp [closed, toOption_ok]
    | next derived comma further =>
      have first := derived.length_lt
      have second := length_lt_of_skipBlanks comma
      simp only [Datum.nestingList] at nested
      have read := Denotes.readers_complete.2.1 further fuel depth [d] (by omega) (by omega)
      rw [toOption_eq_some_iff.mp (tag derived)]
      simp [comma, read, toOption_ok]

theorem readRootElements_skipBlanks (fuel depth : Nat) (text : List Char) :
    readRootElements fuel depth (skipBlanks text) = readRootElements fuel depth text := by
  simp only [readRootElements, readTag, skipBlanks_skipBlanks]

theorem readRootMembers_skipBlanks (fuel depth : Nat) (seen : Bool)
    (earlier : List (String × Datum)) (text : List Char) :
    readRootMembers fuel depth seen earlier (skipBlanks text) =
      readRootMembers fuel depth seen earlier text := by
  cases fuel with
  | zero => rfl
  | succ fuel => simp only [readRootMembers, readRootKey, readKey, skipBlanks_skipBlanks]

theorem readRoot_elements {text body rest : List Char} {xs : List Datum}
    (opened : skipBlanks text = '[' :: body) (h : DenotesElements body xs rest) :
    readRoot text = (readRootElements (text.length + 1) (maxDepth - 1) body).map
      fun (elements, rest) => (.arr elements, rest) := by
  obtain ⟨c, more, skipped, _, notClose, _⟩ := h.starts
  rw [← readRootElements_skipBlanks]
  simp only [readRoot, opened]
  split
  case h_1 closed =>
    rw [skipped] at closed
    exact absurd (List.cons.inj closed).1 notClose
  case h_2 => rfl

theorem readRoot_members {text body rest : List Char} {ms : List (String × Datum)}
    (opened : skipBlanks text = '\x7b' :: body) (h : DenotesMembers body ms rest) :
    readRoot text = (readRootMembers (text.length + 1) (maxDepth - 1) false [] body).map
      fun (members, rest) => (.obj members, rest) := by
  obtain ⟨c, more, skipped, _, _, notClose⟩ := h.starts
  rw [← readRootMembers_skipBlanks]
  simp only [readRoot, opened]
  split
  case h_1 closed =>
    rw [skipped] at closed
    exact absurd (List.cons.inj closed).1 notClose
  case h_2 => rfl

theorem decode_obj_of_noTag {ms : List (String × Datum)} (distinct : (keys ms).Nodup)
    (noTag : gathered none (decodeTag .root) (ms.lookup tagKey) = none) :
    (decode .root (.obj ms)).toOption = none := by
  rw [decode, toOption_bind, Node.tagAmong_toOption .root none distinct, noTag]
  rfl

theorem decode_arr_of_noTag {d : Datum} {others : List Datum}
    (noTag : (decodeTag .root d).toOption = none) :
    (decode .root (.arr (d :: others))).toOption = none := by
  rw [decode, toOption_bind, noTag]
  rfl

theorem readRoot_denotes {text rest : List Char} {d : Datum} (h : Denotes text d rest)
    (distinct : d.KeysDistinct) (nested : d.nesting ≤ maxDepth) :
    (readRoot text).toOption = some (d, rest) ∨
      (readRoot text).toOption = none ∧ (decode .root d).toOption = none := by
  -- a list is refused at its first element, an object at its tag, and then the value is no rule either
  cases h with
  | scalar scalar =>
    left
    unfold readRoot
    split
    case h_1 opened => exact absurd opened (scalar.skipBlanks_ne (.inr rfl))
    case h_2 opened => exact absurd opened (scalar.skipBlanks_ne (.inl rfl))
    case h_3 =>
      simp only [readValue_skipBlanks, scalar.readValue, toOption_ok]
  | noElements opened closed =>
    left
    simp only [readRoot, opened, closed, toOption_ok]
  | noMembers opened closed =>
    left
    simp only [readRoot, opened, closed, toOption_ok]
  | @elements _ body _ xs opened derived =>
    have used := length_lt_of_skipBlanks opened
    simp only [Datum.nesting] at nested
    rw [readRoot_elements opened derived, toOption_map]
    cases xs with
    | nil => cases derived
    | cons tag others =>
      rw [readRootElements_toOption derived (by omega) (by omega)]
      cases decoded : (decodeTag .root tag).toOption with
      | none => exact .inr ⟨rfl, decode_arr_of_noTag decoded⟩
      | some found => exact .inl rfl
  | @members _ body _ ms opened derived =>
    have used := length_lt_of_skipBlanks opened
    simp only [Datum.nesting] at nested
    cases distinct with
    | obj keysDistinct _ =>
      have read := readRootMembers_toOption derived keysDistinct (text.length + 1) (maxDepth - 1)
        (by omega) (by omega) false (by simp) []
      rw [readRoot_members opened derived, toOption_map, read, tagged]
      cases decoded : gathered none (decodeTag .root) (ms.lookup tagKey) with
      | none => exact .inr ⟨rfl, decode_obj_of_noTag keysDistinct decoded⟩
      | some found => exact .inl rfl

theorem ofText_toOption {text : List Char} {d : Datum} (h : IsDocument text d)
    (distinct : d.KeysDistinct) (nested : d.nesting ≤ maxDepth) :
    (ofText text).toOption = (ofDatum d).toOption := by
  obtain ⟨rest, derived, ends⟩ := h
  unfold ofText
  rcases readRoot_denotes derived distinct nested with read | ⟨none, shape⟩
  · rw [toOption_eq_some_iff.mp read]
    simp only
    cases ofDatum d with
    | error fault => rfl
    | ok rule =>
      simp only [isEnd, ends, List.isEmpty_nil, if_true]
      rfl
  · rw [ofDatum, toOption_map, shape]
    cases read : readRoot text with
    | error fault => rfl
    | ok r =>
      rw [read] at none
      cases none

end Rule

end Verdict
