import Verdict.Proofs.Rule.Members

set_option autoImplicit false

namespace Verdict

open Datum (keys canonicalMembers canonicalList)

namespace Node

theorem decodeText_canonical (d : Datum) :
    (decodeText d.canonical).toOption = (decodeText d).toOption := by
  cases d <;> rfl

theorem decodeOp_canonical (d : Datum) :
    (decodeOp d.canonical).toOption = (decodeOp d).toOption := by
  cases d <;> rfl

theorem decodeTag_canonical (place : Place) (d : Datum) :
    (decodeTag place d.canonical).toOption = (decodeTag place d).toOption := by
  cases d <;> cases place <;> rfl

theorem canonicalMembers_ne_nil (m : String × Datum) (rest : List (String × Datum)) :
    canonicalMembers (m :: rest) ≠ [] := by
  obtain ⟨key, d⟩ := m
  rw [canonicalMembers]
  cases canonicalMembers rest with
  | nil => simp [Datum.insertUnder]
  | cons n more =>
    simp only [Datum.insertUnder]
    split
    · simp
    · split <;> simp

theorem decodeKind_several {ms : List (String × Datum)} (several : 2 ≤ ms.length) :
    (decodeKind (.obj ms)).toOption = none := by
  obtain ⟨m, n, more, rfl⟩ : ∃ m n more, ms = m :: n :: more := by
    match ms, several with
    | m :: n :: more, _ => exact ⟨m, n, more, rfl⟩
  simp [decodeKind, Except.toOption]

theorem decodeKind_canonical {d : Datum} (h : d.KeysDistinct) :
    (decodeKind d.canonical).toOption = (decodeKind d).toOption := by
  cases h with
  | null | bool b | num n | str s | arr each => rfl
  | @obj ms distinct _ =>
    rcases ms with _ | ⟨⟨key, d⟩, _ | ⟨n, more⟩⟩
    · rfl
    · cases d with
      | null | bool b | num n | str s | arr xs => rfl
      | obj members =>
        rcases members with _ | ⟨m, more⟩
        · rfl
        · obtain ⟨e, others, some⟩ := List.exists_cons_of_ne_nil (canonicalMembers_ne_nil m more)
          simp only [Datum.canonical, canonicalMembers, Datum.insertUnder] at some ⊢
          rw [some]
          rfl
    · have length := (Datum.canonicalMembers_perm distinct).length_eq
      rw [Datum.canonical, decodeKind_several (by rw [length]; simp), decodeKind_several (by simp)]

/-- The value that a document denotes is decoded as the document is. -/
structure ReadAsValue (d : Datum) : Prop where
  node (place : Place) : (decode place d.canonical).toOption = (decode place d).toOption
  nodes : (decodeNodes d.canonical).toOption = (decodeNodes d).toOption
  args : (decodeArgs d.canonical).toOption = (decodeArgs d).toOption

theorem ReadAsValue.operand {d : Datum} (h : ReadAsValue d) :
    (decodeOperand d.canonical).toOption = (decodeOperand d).toOption := by
  have read := congrArg (Option.map some) (h.node .inner)
  rw [← toOption_map, ← toOption_map] at read
  cases d with
  | null => rfl
  | bool b | num n | str s | arr xs | obj ms => exact read

theorem decodeEach_canonical {xs : List Datum} (each : ∀ d ∈ xs, ReadAsValue d) :
    (decodeEach (canonicalList xs)).toOption = (decodeEach xs).toOption := by
  induction xs with
  | nil => rfl
  | cons d rest ih =>
    have others := ih fun d mem => each d (List.mem_cons_of_mem _ mem)
    simp only [canonicalList, decodeEach, toOption_bind, (each d List.mem_cons_self).node, others]

section Members

variable {ms : List (String × Datum)} (distinct : (keys ms).Nodup)
  (each : ∀ m ∈ ms, m.2.KeysDistinct ∧ ReadAsValue m.2)

include distinct

theorem tagAmong_canonical (place : Place) :
    (tagAmong place none (canonicalMembers ms)).toOption = (tagAmong place none ms).toOption := by
  rw [tagAmong_toOption place none (Datum.keys_canonicalMembers_nodup _),
    tagAmong_toOption place none distinct,
    gathered_canonical distinct _ fun m _ => decodeTag_canonical place m.2]

theorem fieldMembers_canonical (parts : FieldParts) :
    (fieldMembers parts (canonicalMembers ms)).toOption = (fieldMembers parts ms).toOption := by
  rw [fieldMembers_toOption parts (Datum.keys_canonicalMembers_nodup _),
    fieldMembers_toOption parts distinct,
    gathered_canonical distinct _ fun m _ => decodeText_canonical m.2]

include each

theorem literalMembers_canonical (parts : LiteralParts) :
    (literalMembers parts (canonicalMembers ms)).toOption = (literalMembers parts ms).toOption := by
  rw [literalMembers_toOption parts (Datum.keys_canonicalMembers_nodup _),
    literalMembers_toOption parts distinct,
    gathered_canonical distinct _ fun m mem => decodeKind_canonical (each m mem).1,
    gathered_canonical distinct _ fun m mem => by rw [(each m mem).1.canonical_canonical]]

theorem operatorMembers_canonical (parts : OperatorParts) :
    (operatorMembers parts (canonicalMembers ms)).toOption = (operatorMembers parts ms).toOption := by
  rw [operatorMembers_toOption parts (Datum.keys_canonicalMembers_nodup _),
    operatorMembers_toOption parts distinct,
    gathered_canonical distinct _ fun m _ => decodeOp_canonical m.2]
  simp only [gathered_canonical distinct _ fun m mem => (each m mem).2.operand]

theorem elementMembers_canonical (elements : Option (List Node)) :
    (elementMembers elements (canonicalMembers ms)).toOption =
      (elementMembers elements ms).toOption := by
  rw [elementMembers_toOption elements (Datum.keys_canonicalMembers_nodup _),
    elementMembers_toOption elements distinct,
    gathered_canonical distinct _ fun m mem => (each m mem).2.nodes]

theorem callMembers_canonical (parts : CallParts) :
    (callMembers parts (canonicalMembers ms)).toOption = (callMembers parts ms).toOption := by
  rw [callMembers_toOption parts (Datum.keys_canonicalMembers_nodup _),
    callMembers_toOption parts distinct,
    gathered_canonical distinct _ fun m _ => decodeText_canonical m.2,
    gathered_canonical distinct _ fun m mem => (each m mem).2.args]

theorem readAsValue_obj : ReadAsValue (.obj ms) where
  node place := by
    rw [Datum.canonical, decode, decode, toOption_bind, toOption_bind, tagAmong_canonical distinct]
    congr 1
    funext tag
    cases tag with
    | operator => exact operatorMembers_canonical distinct each _
    | field => exact fieldMembers_canonical distinct _
    | literal => exact literalMembers_canonical distinct each _
    | array => simp only [toOption_bind, elementMembers_canonical distinct each]
    | function => exact callMembers_canonical distinct each _
    | unknown => rfl
  nodes := rfl
  args := elementMembers_canonical distinct each none

end Members

section Elements

variable {xs : List Datum} (each : ∀ d ∈ xs, d.KeysDistinct ∧ ReadAsValue d)

theorem isEmpty_canonicalList : (canonicalList xs).isEmpty = xs.isEmpty := by
  cases xs <;> rfl

theorem fieldList_canonical :
    (fieldList (canonicalList xs)).toOption = (fieldList xs).toOption := by
  rcases xs with _ | ⟨name, rest⟩
  · rfl
  · simp only [canonicalList, fieldList, toOption_bind, decodeText_canonical, toOption_ite,
      isEmpty_canonicalList, toOption_error]

theorem nothingList_canonical :
    (nothingList (canonicalList xs)).toOption = (nothingList xs).toOption := by
  simp only [nothingList, toOption_ite, isEmpty_canonicalList, toOption_error]

include each

theorem literalList_canonical :
    (literalList (canonicalList xs)).toOption = (literalList xs).toOption := by
  rcases xs with _ | ⟨kind, _ | ⟨value, rest⟩⟩
  · rfl
  · have read := decodeKind_canonical (each kind (by simp)).1
    simp only [canonicalList, literalList, toOption_bind, read]
  · have read := decodeKind_canonical (each kind (by simp)).1
    have stored := (each value (by simp)).1.canonical_canonical
    simp only [canonicalList, literalList, toOption_bind, read, stored, toOption_ite,
      isEmpty_canonicalList, toOption_error]

theorem operatorList_canonical :
    (operatorList (canonicalList xs)).toOption = (operatorList xs).toOption := by
  rcases xs with _ | ⟨op, _ | ⟨left, _ | ⟨right, rest⟩⟩⟩
  · rfl
  · simp only [canonicalList, operatorList, toOption_bind, decodeText_canonical]
  · have read := (each left (by simp)).2.operand
    unfold decodeOperand at read
    simp only [canonicalList, operatorList, toOption_bind, decodeText_canonical, read]
  · have read := (each left (by simp)).2.operand
    have readRight := (each right (by simp)).2.operand
    unfold decodeOperand at read readRight
    simp only [canonicalList, operatorList, toOption_bind, decodeText_canonical, read, readRight,
      toOption_ite, isEmpty_canonicalList, toOption_error]

theorem elementList_canonical :
    (elementList (canonicalList xs)).toOption = (elementList xs).toOption := by
  rcases xs with _ | ⟨elements, rest⟩
  · rfl
  · have read := (each elements (by simp)).2.nodes
    simp only [canonicalList, elementList, toOption_bind, read, toOption_ite, isEmpty_canonicalList,
      toOption_error]

theorem callList_canonical :
    (callList (canonicalList xs)).toOption = (callList xs).toOption := by
  rcases xs with _ | ⟨name, _ | ⟨args, rest⟩⟩
  · rfl
  · simp only [canonicalList, callList, toOption_bind, decodeText_canonical]
  · have read := (each args (by simp)).2.args
    simp only [canonicalList, callList, toOption_bind, decodeText_canonical, read, toOption_ite,
      isEmpty_canonicalList, toOption_error]

theorem readAsValue_arr : ReadAsValue (.arr xs) where
  node place := by
    rcases xs with _ | ⟨tag, members⟩
    · rfl
    · have rest : ∀ d ∈ members, d.KeysDistinct ∧ ReadAsValue d :=
        fun d mem => each d (List.mem_cons_of_mem _ mem)
      rw [Datum.canonical, canonicalList, decode, decode, toOption_bind, toOption_bind,
        decodeTag_canonical]
      congr 1
      funext tag
      cases tag with
      | operator => exact operatorList_canonical rest
      | field => exact fieldList_canonical
      | literal => exact literalList_canonical rest
      | array => simp only [toOption_bind, elementList_canonical rest]
      | function => exact callList_canonical rest
      | unknown => exact nothingList_canonical
  nodes := decodeEach_canonical fun d mem => (each d mem).2
  args := elementList_canonical each

end Elements

theorem readAsValue_of_keysDistinct {d : Datum} (h : d.KeysDistinct) : ReadAsValue d := by
  induction h with
  | null | bool b | num n | str s => exact ⟨fun _ => rfl, rfl, rfl⟩
  | arr each ih => exact readAsValue_arr fun d mem => ⟨each d mem, ih d mem⟩
  | obj distinct each ih => exact readAsValue_obj distinct fun m mem => ⟨each m mem, ih m mem⟩

end Node

end Verdict
