import Verdict.Rule.Limits

set_option autoImplicit false

namespace Verdict

namespace Node

@[elab_as_elim]
theorem induct {motive : Node → Prop}
    (operator : ∀ op left right, (∀ n ∈ left, motive n) → (∀ n ∈ right, motive n) →
      motive (.operator op left right))
    (field : ∀ name, motive (.field name))
    (literal : ∀ kind value, motive (.literal kind value))
    (array : ∀ elements, (∀ n ∈ elements, motive n) → motive (.array elements))
    (call : ∀ name args, (∀ n ∈ args, motive n) → motive (.call name args))
    (unknown : motive .unknown) (n : Node) : motive n := by
  refine Node.rec (motive_1 := motive) (motive_2 := fun o => ∀ n ∈ o, motive n)
    (motive_3 := fun l => ∀ n ∈ l, motive n) operator field literal array call unknown ?_ ?_ ?_ ?_ n
  · simp
  · simp
  · simp
  · intro head tail here there
    simpa using ⟨here, there⟩

@[simp] theorem children_binary (op : Operator) (left right : Node) :
    (binary op left right).children = [left, right] := rfl

@[simp] theorem children_not (operand : Node) : (Node.not operand).children = [operand] := rfl

theorem mem_children_left {op : Operator} {left right : Option Node} {n : Node} (mem : n ∈ left) :
    n ∈ (operator op left right).children := by
  simp [children, Option.mem_def.mp mem]

theorem mem_children_right {op : Operator} {left right : Option Node} {n : Node} (mem : n ∈ right) :
    n ∈ (operator op left right).children := by
  simp [children, Option.mem_def.mp mem]

inductive Within (inner : Node) : Node → Prop where
  | self : Within inner inner
  | child {root c : Node} : c ∈ root.children → Within inner c → Within inner root

namespace Within

variable {inner root : Node}

theorem ofLeft {op : Operator} {left right : Option Node} {n : Node} (mem : n ∈ left)
    (h : Within inner n) : Within inner (.operator op left right) :=
  .child (mem_children_left mem) h

theorem ofRight {op : Operator} {left right : Option Node} {n : Node} (mem : n ∈ right)
    (h : Within inner n) : Within inner (.operator op left right) :=
  .child (mem_children_right mem) h

theorem ofElement {elements : List Node} {n : Node} (mem : n ∈ elements)
    (h : Within inner n) : Within inner (.array elements) :=
  .child mem h

theorem ofArgument {name : String} {args : List Node} {n : Node} (mem : n ∈ args)
    (h : Within inner n) : Within inner (.call name args) :=
  .child mem h

theorem iff_children : Within inner root ↔ inner = root ∨ ∃ c ∈ root.children, Within inner c := by
  constructor
  · intro h
    cases h with
    | self => exact .inl rfl
    | child mem h => exact .inr ⟨_, mem, h⟩
  · rintro (rfl | ⟨c, mem, h⟩)
    · exact .self
    · exact .child mem h

theorem mem_of_closed {nodes : List Node} (closed : ∀ n ∈ nodes, ∀ c ∈ n.children, c ∈ nodes)
    (h : Within inner root) (mem : root ∈ nodes) : inner ∈ nodes := by
  induction h with
  | self => exact mem
  | child here _ ih => exact ih (closed _ mem _ here)

end Within

theorem mem_insertName {name other : String} {names : List String} :
    name ∈ insertName other names ↔ name = other ∨ name ∈ names := by
  induction names with
  | nil => simp [insertName]
  | cons head rest ih =>
    simp only [insertName]
    split
    · simp
    · split
      · next same => simp [same]
      · simp only [List.mem_cons, ih]
        exact or_left_comm

theorem mem_addFieldsOption {name : String} {operand : Option Node}
    (ih : ∀ n ∈ operand, ∀ names, name ∈ addFields n names ↔ name ∈ names ∨ Within (.field name) n)
    (names : List String) :
    name ∈ addFieldsOption operand names ↔
      name ∈ names ∨ ∃ n ∈ operand, Within (.field name) n := by
  cases operand with
  | none => simp [addFieldsOption]
  | some n => simpa [addFieldsOption] using ih n rfl names

theorem mem_addFieldsList {name : String} {nodes : List Node}
    (ih : ∀ n ∈ nodes, ∀ names, name ∈ addFields n names ↔ name ∈ names ∨ Within (.field name) n)
    (names : List String) :
    name ∈ addFieldsList nodes names ↔ name ∈ names ∨ ∃ n ∈ nodes, Within (.field name) n := by
  induction nodes generalizing names with
  | nil => simp [addFieldsList]
  | cons head rest restIh =>
    rw [addFieldsList, restIh (fun n mem => ih n (List.mem_cons_of_mem _ mem)),
      ih head List.mem_cons_self]
    simp [or_assoc]

theorem mem_addFields {name : String} (root : Node) (names : List String) :
    name ∈ addFields root names ↔ name ∈ names ∨ Within (.field name) root := by
  induction root using Node.induct generalizing names with
  | operator op left right leftIh rightIh =>
    rw [addFields, mem_addFieldsOption rightIh, mem_addFieldsOption leftIh, Within.iff_children]
    simp [children, or_assoc, or_and_right, exists_or]
  | field other =>
    rw [addFields, mem_insertName, Within.iff_children]
    simp [children, or_comm]
  | literal kind value => rw [addFields, Within.iff_children]; simp [children]
  | array elements ih =>
    rw [addFields, mem_addFieldsList ih, Within.iff_children]
    simp [children]
  | call name args ih =>
    rw [addFields, mem_addFieldsList ih, Within.iff_children]
    simp [children]
  | unknown => rw [addFields, Within.iff_children]; simp [children]

theorem mem_requiredFields {name : String} {root : Node} :
    name ∈ root.requiredFields ↔ Within (.field name) root := by
  simp [requiredFields, mem_addFields]

end Node

namespace Rule

/-- The rules there can be: made of a tree, read from a document or from text, or compiled. -/
inductive Built : Rule → Prop where
  | tree (root : Node) : Built (.ofNode root)
  | document {d : Datum} {rule : Rule} : Rule.ofDatum d = .ok rule → Built rule
  | text {json : String} {rule : Rule} : Rule.ofJson json = .ok rule → Built rule
  | compiled {limits : Limits} {root : Node} {rule : Rule} :
      limits.compile root = .ok rule → Built rule
  | compiledText {limits : Limits} {json : String} {rule : Rule} :
      limits.compileJson json = .ok rule → Built rule

theorem ofDatum_eq_ok {d : Datum} {rule : Rule} (h : ofDatum d = .ok rule) :
    rule = ofNode rule.root := by
  unfold ofDatum at h
  cases decoded : Node.decode .root d with
  | error fault => simp [decoded, Except.map] at h
  | ok root =>
    rw [decoded] at h
    cases h
    rfl

theorem ofJson_eq_ok {json : String} {rule : Rule} (h : ofJson json = .ok rule) :
    rule = ofNode rule.root := by
  simp only [ofJson, ofText] at h
  split at h
  · cases h
  · next d rest _ =>
    split at h
    · cases h
    · next read decoded =>
      split at h
      · cases h
        exact ofDatum_eq_ok decoded
      · cases h

theorem compile_eq_ok {limits : Limits} {root : Node} {rule : Rule}
    (h : limits.compile root = .ok rule) : rule = ofNode rule.root := by
  unfold Limits.compile at h
  cases checked : limits.check root with
  | error fault => simp [checked, Except.map] at h
  | ok _ =>
    rw [checked] at h
    cases h
    rfl

theorem compileJson_eq_ok {limits : Limits} {json : String} {rule : Rule}
    (h : limits.compileJson json = .ok rule) : rule = ofNode rule.root := by
  unfold Limits.compileJson at h
  split at h
  · cases h
  · split at h
    · cases h
    · next compiled =>
      cases h
      exact compile_eq_ok compiled

theorem Built.eq_ofNode {rule : Rule} (built : rule.Built) : rule = ofNode rule.root := by
  cases built with
  | tree root => rfl
  | document h => exact ofDatum_eq_ok h
  | text h => exact ofJson_eq_ok h
  | compiled h => exact compile_eq_ok h
  | compiledText h => exact compileJson_eq_ok h

theorem Built.mem_requiredFields {rule : Rule} (built : rule.Built) {name : String} :
    name ∈ rule.requiredFields ↔ Node.Within (.field name) rule.root := by
  rw [built.eq_ofNode]
  exact Node.mem_requiredFields

end Rule

end Verdict
