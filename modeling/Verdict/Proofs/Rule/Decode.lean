import Verdict.Proofs.Datum.Shape
import Verdict.Proofs.Rule.Tree
import Verdict.Rule.Decode

set_option autoImplicit false

namespace Verdict

theorem LiteralKind.ofName_name (kind : LiteralKind) : ofName kind.name = kind := by
  cases kind <;> rfl

namespace Operator

theorem eq_of_ofName_eq_other {text name : String} (h : ofName text = .other name) : text = name := by
  unfold ofName at h
  split at h
  case h_23 =>
    injection h
  all_goals cases h

theorem ofName_name_ofName (text : String) : ofName (ofName text).name = ofName text := by
  cases taken : ofName text with
  | other name =>
    obtain rfl := eq_of_ofName_eq_other taken
    exact taken
  | eq | ne | gt | ge | lt | le | contains | matching | isIn | and | or | not => rfl

end Operator

namespace Node

/-- Trees as they are built and decoded, whose literals hold no floats: an operator is what a name is
taken for, and a literal holds a value, with its members sorted and each key once. -/
inductive Exchangeable : Node → Prop where
  | operator (text : String) {left right : Option Node} :
      (∀ n ∈ left, Exchangeable n) → (∀ n ∈ right, Exchangeable n) →
      Exchangeable (.operator (.ofName text) left right)
  | field (name : String) : Exchangeable (.field name)
  | literal (kind : LiteralKind) {value : Datum} :
      value.canonical = value → value.Floatless → Exchangeable (.literal kind value)
  | array {elements : List Node} : (∀ n ∈ elements, Exchangeable n) → Exchangeable (.array elements)
  | call (name : String) {args : List Node} :
      (∀ n ∈ args, Exchangeable n) → Exchangeable (.call name args)
  | unknown : Exchangeable .unknown

theorem operand_encodeOption {operand? : Option Node}
    (h : ∀ n ∈ operand?, decode .inner n.encode = .ok n) :
    operand (encodeOption operand?) (decode .inner (encodeOption operand?)) = .ok operand? := by
  cases operand? with
  | none => rfl
  | some n =>
    rw [encodeOption, h n rfl]
    cases n <;> rfl

theorem decodeEach_encodeList {nodes : List Node} (h : ∀ n ∈ nodes, decode .inner n.encode = .ok n) :
    decodeEach (encodeList nodes) = .ok nodes := by
  induction nodes with
  | nil => rfl
  | cons head rest ih =>
    rw [encodeList, decodeEach, h head List.mem_cons_self,
      ih fun n mem => h n (List.mem_cons_of_mem _ mem)]
    rfl

section Decoded

variable (place : Place)

theorem decode_operator (op : Operator) (left right : Option Node) :
    decode place (Node.operator op left right).encode = (do
      let l ← operand (encodeOption left) (decode .inner (encodeOption left))
      let r ← operand (encodeOption right) (decode .inner (encodeOption right))
      return .operator (.ofName op.name) l r) := by
  cases place <;> rfl

theorem decode_literal (kind : LiteralKind) (value : Datum) :
    decode place (Node.literal kind value).encode = .ok (.literal kind value.canonical) := by
  have read : decode place (Node.literal kind value).encode =
      .ok (.literal (.ofName kind.name) value.canonical) := by
    cases place <;> rfl
  rw [read, LiteralKind.ofName_name]

theorem decode_array (elements : List Node) :
    decode place (Node.array elements).encode = (do
      let read ← decodeEach (encodeList elements) >>= fun read => elementMembers (some read) []
      return .array read) := by
  cases place <;> rfl

theorem decode_call (name : String) (args : List Node) :
    decode place (Node.call name args).encode = (do
      let read ← decodeEach (encodeList args) >>= fun read => elementMembers (some read) []
      CallParts.finish ⟨some name, some read⟩) := by
  cases place <;> rfl

end Decoded

theorem Exchangeable.decode_encode {root : Node} (h : root.Exchangeable) (place : Place) :
    decode place root.encode = .ok root := by
  induction h generalizing place with
  | operator text _ _ leftIh rightIh =>
    rw [decode_operator, operand_encodeOption fun n mem => leftIh n mem .inner,
      operand_encodeOption fun n mem => rightIh n mem .inner, Operator.ofName_name_ofName]
    rfl
  | field name => cases place <;> rfl
  | @literal kind value stored _ =>
    rw [decode_literal, stored]
  | array _ ih =>
    rw [decode_array, decodeEach_encodeList fun n mem => ih n mem .inner]
    rfl
  | call name _ ih =>
    rw [decode_call, decodeEach_encodeList fun n mem => ih n mem .inner]
    rfl
  | unknown => cases place <;> rfl

theorem encodeList_floatless {nodes : List Node} (h : ∀ n ∈ nodes, n.encode.Floatless) :
    ∀ d ∈ encodeList nodes, d.Floatless := by
  induction nodes with
  | nil => simp [encodeList]
  | cons head rest ih =>
    simp only [encodeList, List.mem_cons, forall_eq_or_imp]
    exact ⟨h head List.mem_cons_self, ih fun n mem => h n (List.mem_cons_of_mem _ mem)⟩

theorem tagged_floatless {tag : String} {members : List (String × Datum)}
    (h : ∀ m ∈ members, m.2.Floatless) : (tagged tag members).Floatless := by
  refine .obj fun m mem => ?_
  rcases List.mem_cons.mp mem with rfl | mem
  · exact .str tag
  · exact h m mem

theorem encodeOption_floatless {operand? : Option Node}
    (h : ∀ n ∈ operand?, n.encode.Floatless) : (encodeOption operand?).Floatless := by
  cases operand? with
  | none => exact .null
  | some n => exact h n rfl

theorem Exchangeable.encode_floatless {root : Node} (h : root.Exchangeable) :
    root.encode.Floatless := by
  induction h with
  | operator text _ _ leftIh rightIh =>
    have left := encodeOption_floatless leftIh
    have right := encodeOption_floatless rightIh
    exact tagged_floatless (by simp [left, right, Datum.Floatless.str])
  | field name => exact tagged_floatless (by simp [Datum.Floatless.str])
  | literal kind _ floatless => exact tagged_floatless (by simp [floatless, Datum.Floatless.str])
  | array _ ih =>
    have all := Datum.Floatless.arr (encodeList_floatless ih)
    exact tagged_floatless (by simp [all])
  | @call name args _ ih =>
    have all := Datum.Floatless.arr (encodeList_floatless ih)
    have array : (tagged "array" [("elements", .arr (encodeList args))]).Floatless :=
      tagged_floatless (by simp [all])
    exact tagged_floatless (by simp [array, Datum.Floatless.str])
  | unknown => exact tagged_floatless (by simp)

theorem encode_eq_tagged (root : Node) :
    ∃ tag members, root.encode = tagged tag members ∧ ∀ m ∈ members, m.1 ≠ tagKey := by
  cases root with
  | operator op left right => exact ⟨_, _, rfl, by simp [tagKey]⟩
  | field name => exact ⟨_, _, rfl, by simp [tagKey]⟩
  | literal kind value => exact ⟨_, _, rfl, by simp [tagKey]⟩
  | array elements => exact ⟨_, _, rfl, by simp [tagKey]⟩
  | call name args => exact ⟨_, _, rfl, by simp [tagKey]⟩
  | unknown => exact ⟨_, _, rfl, by simp⟩

end Node

end Verdict
