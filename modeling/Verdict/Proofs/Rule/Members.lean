import Verdict.Proofs.Datum.Order
import Verdict.Rule.Decode

set_option autoImplicit false

namespace Verdict

open Datum (keys canonicalMembers)

theorem toOption_bind {ε α β : Type} (x : Except ε α) (f : α → Except ε β) :
    (x >>= f).toOption = x.toOption.bind fun a => (f a).toOption := by
  cases x <;> rfl

theorem toOption_map {ε α β : Type} (x : Except ε α) (f : α → β) :
    (x.map f).toOption = x.toOption.map f := by
  cases x <;> rfl

theorem toOption_ite {ε α : Type} (p : Prop) [Decidable p] (x y : Except ε α) :
    (if p then x else y).toOption = if p then x.toOption else y.toOption := by
  split <;> rfl

theorem toOption_ok {ε α : Type} (a : α) : (.ok a : Except ε α).toOption = some a := rfl

theorem toOption_error {ε α : Type} (fault : ε) : (.error fault : Except ε α).toOption = none := rfl

theorem toOption_eq_some_iff {ε α : Type} {x : Except ε α} {a : α} :
    x.toOption = some a ↔ x = .ok a := by
  cases x <;> simp [Except.toOption]

namespace Node

section Gather

variable {α β : Type}

def gathered (seen : Option α) (read : Datum → Decoding α) : Option Datum → Option (Option α)
  | none => some seen
  | some d => (once "" seen (read d)).toOption.map some

theorem once_toOption (key : String) (seen : Option α) (read : Decoding α) :
    (once key seen read).toOption = (once "" seen read).toOption := by
  cases seen <;> rfl

theorem gathered_cons_ne {key k : String} (other : k ≠ key) (seen : Option α)
    (read : Datum → Decoding α) (d : Datum) (rest : List (String × Datum)) :
    gathered seen read (((k, d) :: rest).lookup key) = gathered seen read (rest.lookup key) := by
  rw [Datum.lookup_cons_ne other]

theorem gathered_cons_self {key : String} {rest : List (String × Datum)} (fresh : key ∉ keys rest)
    (seen : Option α) (read : Datum → Decoding α) (d : Datum) (next : Option α → Option β) :
    (gathered seen read (((key, d) :: rest).lookup key)).bind next =
      (once key seen (read d)).toOption.bind fun a =>
        (gathered (some a) read (rest.lookup key)).bind next := by
  rw [Datum.lookup_cons_self, Datum.lookup_eq_none fresh, gathered, ← once_toOption key]
  simp only [gathered, Option.bind_map, Option.bind_some]
  rfl

theorem gathered_canonical {ms : List (String × Datum)} (distinct : (keys ms).Nodup)
    (seen : Option α) {read : Datum → Decoding α}
    (alike : ∀ m ∈ ms, (read m.2.canonical).toOption = (read m.2).toOption) (key : String) :
    gathered seen read ((canonicalMembers ms).lookup key) = gathered seen read (ms.lookup key) := by
  rw [Datum.lookup_canonicalMembers distinct]
  cases found : ms.lookup key with
  | none => rfl
  | some d =>
    have same := alike (key, d) (Datum.mem_of_lookup found)
    cases seen with
    | none => simpa [gathered, once] using congrArg (Option.map some) same
    | some a => rfl

end Gather

section Members

def decodeOp (d : Datum) : Decoding Operator := (decodeText d).map .ofName

def decodeOperand (d : Datum) : Decoding (Option Node) := operand d (decode .inner d)

theorem once_decodeOp (key : String) (seen : Option Operator) (d : Datum) :
    (once key seen (decodeOp d)).toOption =
      (once key (seen.map Operator.name) (decodeText d)).toOption.map .ofName := by
  cases seen with
  | some op => rfl
  | none => exact toOption_map _ _

variable {ms : List (String × Datum)}

theorem tagAmong_toOption (place : Place) (seen : Option Tag) (distinct : (keys ms).Nodup) :
    (tagAmong place seen ms).toOption =
      (gathered seen (decodeTag place) (ms.lookup tagKey)).bind id := by
  induction ms generalizing seen with
  | nil => cases seen <;> rfl
  | cons m rest ih =>
    obtain ⟨key, d⟩ := m
    obtain ⟨fresh, others⟩ := List.nodup_cons.mp distinct
    by_cases tag : key = tagKey
    · subst tag
      rw [gathered_cons_self fresh]
      cases seen with
      | some seen => simp [tagAmong, once, Except.toOption]
      | none =>
        simp only [tagAmong, if_true]
        cases read : decodeTag place d with
        | error fault => rfl
        | ok tag => exact ih (some tag) others
    · rw [gathered_cons_ne tag, ← ih seen others]
      cases seen <;> simp [tagAmong, tag]

theorem fieldMembers_toOption (parts : FieldParts) (distinct : (keys ms).Nodup) :
    (fieldMembers parts ms).toOption =
      (gathered parts.name decodeText (ms.lookup "name")).bind fun name =>
        (fieldMembers ⟨name⟩ []).toOption := by
  induction ms generalizing parts with
  | nil => rfl
  | cons m rest ih =>
    obtain ⟨key, d⟩ := m
    obtain ⟨fresh, others⟩ := List.nodup_cons.mp distinct
    by_cases name : key = "name"
    · subst name
      rw [gathered_cons_self fresh, fieldMembers, if_pos rfl, toOption_bind]
      simp only [ih _ others]
    · rw [gathered_cons_ne name, fieldMembers, if_neg name, ih parts others]

theorem literalMembers_toOption (parts : LiteralParts) (distinct : (keys ms).Nodup) :
    (literalMembers parts ms).toOption =
      (gathered parts.kind decodeKind (ms.lookup "type")).bind fun kind =>
        (gathered parts.value (fun d => .ok d.canonical) (ms.lookup "value")).bind fun value =>
          (literalMembers ⟨kind, value⟩ []).toOption := by
  induction ms generalizing parts with
  | nil => rfl
  | cons m rest ih =>
    obtain ⟨key, d⟩ := m
    obtain ⟨fresh, others⟩ := List.nodup_cons.mp distinct
    rw [literalMembers]
    by_cases kind : key = "type"
    · subst kind
      rw [gathered_cons_self fresh, if_pos rfl, toOption_bind]
      simp only [ih _ others, gathered_cons_ne (show "type" ≠ "value" by decide)]
    · rw [if_neg kind, gathered_cons_ne kind]
      by_cases value : key = "value"
      · subst value
        rw [if_pos rfl, toOption_bind]
        simp only [ih _ others, gathered_cons_self fresh]
        rw [Option.bind_comm]
      · rw [if_neg value, gathered_cons_ne value, ih parts others]

theorem operatorMembers_toOption (parts : OperatorParts) (distinct : (keys ms).Nodup) :
    (operatorMembers parts ms).toOption =
      (gathered parts.op decodeOp (ms.lookup "operator")).bind fun op =>
        (gathered parts.left decodeOperand (ms.lookup "left")).bind fun left =>
          (gathered parts.right decodeOperand (ms.lookup "right")).bind fun right =>
            (operatorMembers ⟨op, left, right⟩ []).toOption := by
  induction ms generalizing parts with
  | nil => rfl
  | cons m rest ih =>
    obtain ⟨key, d⟩ := m
    obtain ⟨fresh, others⟩ := List.nodup_cons.mp distinct
    rw [operatorMembers]
    by_cases op : key = "operator"
    · subst op
      rw [gathered_cons_self fresh, if_pos rfl, toOption_bind, once_decodeOp, Option.bind_map]
      simp only [ih _ others, gathered_cons_ne (show "operator" ≠ "left" by decide),
        gathered_cons_ne (show "operator" ≠ "right" by decide)]
      rfl
    · rw [if_neg op, gathered_cons_ne op]
      by_cases left : key = "left"
      · subst left
        rw [if_pos rfl, toOption_bind]
        simp only [ih _ others, gathered_cons_self fresh,
          gathered_cons_ne (show "left" ≠ "right" by decide)]
        rw [Option.bind_comm]
        rfl
      · rw [if_neg left, gathered_cons_ne left]
        by_cases right : key = "right"
        · subst right
          rw [if_pos rfl, toOption_bind]
          simp only [ih _ others, gathered_cons_self fresh]
          rw [Option.bind_comm]
          congr 1
          funext op
          rw [Option.bind_comm]
          rfl
        · rw [if_neg right, gathered_cons_ne right, ih parts others]

theorem elementMembers_toOption (elements : Option (List Node)) (distinct : (keys ms).Nodup) :
    (elementMembers elements ms).toOption =
      (gathered elements decodeNodes (ms.lookup "elements")).bind fun elements =>
        (elementMembers elements []).toOption := by
  induction ms generalizing elements with
  | nil => rfl
  | cons m rest ih =>
    obtain ⟨key, d⟩ := m
    obtain ⟨fresh, others⟩ := List.nodup_cons.mp distinct
    rw [elementMembers]
    by_cases named : key = "elements"
    · subst named
      rw [gathered_cons_self fresh, if_pos rfl, toOption_bind]
      simp only [ih _ others]
    · rw [gathered_cons_ne named, if_neg named, ih elements others]

theorem callMembers_toOption (parts : CallParts) (distinct : (keys ms).Nodup) :
    (callMembers parts ms).toOption =
      (gathered parts.name decodeText (ms.lookup "name")).bind fun name =>
        (gathered parts.args decodeArgs (ms.lookup "args")).bind fun args =>
          (callMembers ⟨name, args⟩ []).toOption := by
  induction ms generalizing parts with
  | nil => rfl
  | cons m rest ih =>
    obtain ⟨key, d⟩ := m
    obtain ⟨fresh, others⟩ := List.nodup_cons.mp distinct
    rw [callMembers]
    by_cases name : key = "name"
    · subst name
      rw [gathered_cons_self fresh, if_pos rfl, toOption_bind]
      simp only [ih _ others, gathered_cons_ne (show "name" ≠ "args" by decide)]
    · rw [if_neg name, gathered_cons_ne name]
      by_cases args : key = "args"
      · subst args
        rw [if_pos rfl, toOption_bind]
        simp only [ih _ others, gathered_cons_self fresh]
        rw [Option.bind_comm]
      · rw [if_neg args, gathered_cons_ne args, ih parts others]

end Members

end Node

end Verdict
