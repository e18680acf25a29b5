import Verdict.Proofs.Sentence.Grouping

set_option autoImplicit false

namespace Verdict

namespace Node

def isOpen : Node → Bool
  | .operator .not _ (some (.operator op (some _) (some _))) => (Link.denial? op).isSome
  | .operator op (some _) (some _) => op.isComparison
  | _ => false

/-- No operand of a comparison is written as a comparison itself. -/
def Unchained (root : Node) : Prop :=
  ∀ op left right, Within (.binary op left right) root → op.isComparison →
    left.isOpen = false ∧ right.isOpen = false

theorem Unchained.child {root c : Node} (h : root.Unchained) (mem : c ∈ root.children) :
    c.Unchained :=
  fun op left right within => h op left right (.child mem within)

theorem unchained_field (name : String) : (Node.field name).Unchained := by
  intro op left right within
  cases within with
  | child mem _ => cases mem

theorem unchained_not {operand : Node} : (Node.not operand).Unchained ↔ operand.Unchained := by
  refine ⟨fun h => h.child (by simp), fun h op left right within => ?_⟩
  rcases Within.iff_children.mp within with same | ⟨c, mem, within⟩
  · cases same
  · rw [children_not, List.mem_singleton] at mem
    exact h op left right (mem ▸ within)

theorem unchained_binary {op : Operator} {left right : Node} :
    (Node.binary op left right).Unchained ↔
      (op.isComparison → left.isOpen = false ∧ right.isOpen = false) ∧
        left.Unchained ∧ right.Unchained := by
  constructor
  · exact fun h => ⟨h op left right .self, h.child (by simp), h.child (by simp)⟩
  · rintro ⟨here, hl, hr⟩ op' left' right' within
    rcases Within.iff_children.mp within with same | ⟨c, mem, inner⟩
    · cases same
      exact here
    · simp only [children_binary, List.mem_cons, List.not_mem_nil, or_false] at mem
      rcases mem with rfl | rfl
      · exact hl op' left' right' inner
      · exact hr op' left' right' inner

end Node

namespace Outline

theorem isTerm_denial_ofBinary (op : Operator) (left right : Outline) :
    (ofBinary op left right).denial.isTerm =
      ((Link.ofOperator? op).isNone || (Link.denial? op).isNone) := by
  unfold ofBinary
  cases Link.ofOperator? op with
  | none => rfl
  | some link =>
    dsimp only
    cases Link.denial? op with
    | none => rfl
    | some link => simp

end Outline

namespace Node.Readable

theorem isTerm_denial {n : Node} (h : n.Readable) :
    (Outline.ofNode n).denial.isTerm = !(Node.not n).isOpen := by
  cases h with
  | field | literal | array | call | not => rfl
  | @binary op left right binary =>
    rw [Outline.ofNode_binary binary, Outline.isTerm_denial_ofBinary]
    cases op <;> rfl

theorem isTerm_sentence {n : Node} (h : n.Readable) : n.sentence.isTerm = !n.isOpen := by
  cases h with
  | field | literal | array | call => rfl
  | not h => exact h.isTerm_denial
  | @binary op left right binary =>
    rw [sentence, Outline.ofNode_binary binary]
    unfold Outline.ofBinary
    cases op <;> first | rfl | exact Sentence.isTerm_append .. | cases binary

theorem flat_parts {nodes : List Node} (h : ∀ n ∈ nodes, (Outline.ofNode n).part.Flat) :
    ∀ s ∈ Outline.parts nodes, s.Flat := by
  rw [Outline.parts_eq_map]
  exact List.forall_mem_map.mpr h

theorem flat_outline {n : Node} (h : n.Readable) (unchained : n.Unchained) :
    (Outline.ofNode n).part.Flat ∧ (Outline.ofNode n).denial.Flat := by
  induction h with
  | field _ => exact ⟨.leaf _, .denied _⟩
  | literal _ => exact ⟨.leaf _, .negation (.leaf _)⟩
  | array _ ih =>
    have all := flat_parts fun n mem => (ih n mem (unchained.child mem)).1
    exact ⟨.array all, .negation (.array all)⟩
  | call _ _ ih =>
    have all := flat_parts fun n mem => (ih n mem (unchained.child mem)).1
    exact ⟨.call all, .negation (.call all)⟩
  | not _ ih =>
    have flat := (ih (unchained_not.mp unchained)).2
    exact ⟨flat, .negation flat⟩
  | @binary op left right binary readLeft readRight hl hr =>
    obtain ⟨here, unchainedLeft, unchainedRight⟩ := unchained_binary.mp unchained
    have flatLeft := (hl unchainedLeft).1
    have flatRight := (hr unchainedRight).1
    rw [Outline.ofNode_binary binary]
    unfold Outline.ofBinary
    rcases Outline.ofBinary_cases binary with ⟨link, found, _⟩ | ⟨found, _, _⟩
    · have comparison : op.isComparison := by
        cases op <;> first | rfl | cases found
      -- neither side is a comparison, so that one link is all there is to the chain
      obtain ⟨openLeft, openRight⟩ := here comparison
      have joined {link : Link} :
          ((Outline.ofNode left).part.append link (Outline.ofNode right).part).Flat := by
        have termLeft := readLeft.isTerm_sentence
        have termRight := readRight.isTerm_sentence
        rw [openLeft] at termLeft
        rw [openRight] at termRight
        exact Sentence.flat_append.mpr ⟨⟨flatLeft, termLeft⟩, flatRight, termRight⟩
      rw [found]
      refine ⟨joined, ?_⟩
      dsimp only
      split
      · exact joined
      · exact .negation joined
    · rw [found]
      exact ⟨.group flatLeft flatRight, .negation (.group flatLeft flatRight)⟩

theorem withNe_eq_of_render_eq {a b : Node} (ha : a.Readable) (hb : b.Readable)
    (unchained : a.Unchained) {isRoot : Bool} (same : a.render isRoot = b.render isRoot) :
    a.withNe = b.withNe := by
  have sentence := (render_eq_iff ha hb isRoot).mp same
  have flat : a.sentence.Flat := (ha.flat_outline unchained).1
  calc a.withNe = a.sentence.toNode := (ha.toNode_outline.1 flat).symm
    _ = b.sentence.toNode := by rw [sentence]
    _ = b.withNe := hb.toNode_outline.1 (sentence ▸ flat : b.sentence.Flat)

/-- The text of a tree fixes what it evaluates to, if no comparison stands open within another. -/
theorem evaluate_eq_of_render_eq {a b : Node} (ha : a.Readable) (hb : b.Readable)
    (unchained : a.Unchained) (same : a.render true = b.render true) {σ : Type} (ctx : Context σ) :
    Evaluation.evaluate ctx a = Evaluation.evaluate ctx b := by
  rw [← Evaluation.evaluate_withNe ctx a, ← Evaluation.evaluate_withNe ctx b,
    withNe_eq_of_render_eq ha hb unchained same]

theorem evaluate_eq_of_render_eq_negations :
    let left : Node := .not (.binary .gt (.field "x") (.field "y"))
    let right : Node := .not (.field "z")
    let a : Node := .and (.not (.eq left right)) (.field "w")
    let b : Node := .and (.binary .ne left right) (.field "w")
    let ctx : Context Unit := ⟨.obj [("x", .str "b"), ("y", .str "a")], none, fun _ => none⟩
    a.render true = "not (x > y) != !z and w" ∧ b.render true = "not (x > y) != !z and w" ∧
      Evaluation.evaluate ctx a = Evaluation.evaluate ctx b := by
  have field {name : String} (plain : isPlainName name) := Readable.field plain
  have left : (Node.not (.binary .gt (.field "x") (.field "y"))).Readable :=
    .not (.binary rfl (field (by decide)) (field (by decide)))
  have right : (Node.not (.field "z")).Readable := .not (field (by decide))
  refine ⟨rfl, rfl, evaluate_eq_of_render_eq
    (.binary rfl (.not (.binary rfl left right)) (field (by decide)))
    (.binary rfl (.binary rfl left right) (field (by decide))) ?_ rfl _⟩
  have comparison {op : Operator} {l r : Node} (hl : l.Unchained) (hr : r.Unchained)
      (closed : l.isOpen = false ∧ r.isOpen = false) : (Node.binary op l r).Unchained :=
    unchained_binary.mpr ⟨fun _ => closed, hl, hr⟩
  refine unchained_binary.mpr ⟨nofun, unchained_not.mpr ?_, unchained_field "w"⟩
  refine comparison (unchained_not.mpr ?_) (unchained_not.mpr (unchained_field "z")) ⟨rfl, rfl⟩
  exact comparison (unchained_field "x") (unchained_field "y") ⟨rfl, rfl⟩

end Node.Readable

namespace Node

/-- Chains of comparisons do not say how they are grouped. -/
theorem render_eq_of_regrouped :
    let left : Node := .binary .ne (.eq (.field "a") (.field "b")) (.field "c")
    let right : Node := .eq (.field "a") (.binary .ne (.field "b") (.field "c"))
    let ctx : Context Unit :=
      ⟨.obj [("a", .str "x"), ("b", .str "x"), ("c", .str "x")], none, fun _ => none⟩
    left.render true = "a == b != c" ∧ right.render true = "a == b != c" ∧
      (Evaluation.evaluate ctx left ()).result = .ok (.bool true) ∧
      (Evaluation.evaluate ctx right ()).result = .ok (.bool false) :=
  ⟨rfl, rfl, rfl, rfl⟩

mutual

inductive IsOperand : Node → Prop where
  | field {name : String} : isPlainName name → IsOperand (.field name)
  | literal {kind : LiteralKind} {value : Datum} :
      PlainLiteral kind value → IsOperand (.literal kind value)
  | array {elements : List Node} : (∀ n ∈ elements, IsCondition n) → IsOperand (.array elements)
  | call {name : String} {args : List Node} :
      isPlainName name → (∀ n ∈ args, IsCondition n) → IsOperand (.call name args)
  | logical {op : Operator} {left right : Node} :
      Phrase.isLogical op → IsCondition left → IsCondition right → IsOperand (.binary op left right)

inductive IsCondition : Node → Prop where
  | operand {n : Node} : IsOperand n → IsCondition n
  | comparison {op : Operator} {left right : Node} :
      op.isComparison → IsOperand left → IsOperand right → IsCondition (.binary op left right)
  | not {operand : Node} : IsCondition operand → IsCondition (.not operand)

end

mutual

theorem IsOperand.readable {n : Node} : n.IsOperand → n.Readable
  | .field plain => .field plain
  | .literal plain => .literal plain
  | .array all => .array fun n mem => (all n mem).readable
  | .call plain all => .call plain fun n mem => (all n mem).readable
  | @IsOperand.logical op _ _ logical hl hr =>
      .binary (by cases op <;> first | rfl | cases logical) hl.readable hr.readable

theorem IsCondition.readable {n : Node} : n.IsCondition → n.Readable
  | .operand h => h.readable
  | @IsCondition.comparison op _ _ comparison hl hr =>
      .binary (by cases op <;> first | rfl | cases comparison) hl.readable hr.readable
  | .not h => .not h.readable

end

theorem IsOperand.not_isOpen {n : Node} (h : n.IsOperand) : n.isOpen = false := by
  cases h with
  | field | literal | array | call => rfl
  | @logical op left right logical => cases op <;> first | rfl | cases logical

theorem IsCondition.child {n c : Node} (h : n.IsCondition) (mem : c ∈ n.children) :
    c.IsCondition := by
  cases h with
  | operand h =>
    cases h with
    | field | literal => cases mem
    | array all | call _ all => exact all c mem
    | logical _ hl hr =>
      simp only [children_binary, List.mem_cons, List.not_mem_nil, or_false] at mem
      rcases mem with rfl | rfl
      · exact hl
      · exact hr
  | comparison _ hl hr =>
    simp only [children_binary, List.mem_cons, List.not_mem_nil, or_false] at mem
    rcases mem with rfl | rfl
    · exact .operand hl
    · exact .operand hr
  | not h =>
    simp only [children_not, List.mem_singleton] at mem
    exact mem ▸ h

theorem IsCondition.of_within {root inner : Node} (h : root.IsCondition)
    (within : Within inner root) : inner.IsCondition := by
  induction within with
  | self => exact h
  | child mem _ ih => exact ih (h.child mem)

theorem IsCondition.unchained {n : Node} (h : n.IsCondition) : n.Unchained := by
  intro op left right within comparison
  cases h.of_within within with
  | operand h =>
    cases h with
    | logical logical =>
      cases op <;> simp [Phrase.isLogical, Operator.isComparison] at logical comparison
  | comparison _ hl hr => exact ⟨hl.not_isOpen, hr.not_isOpen⟩

/-- Conditions of one text are one tree, up to how an inequality is written, and evaluate alike. -/
theorem IsCondition.withNe_eq_and_evaluate_eq {a b : Node} (ha : a.IsCondition) (hb : b.IsCondition)
    (isRoot : Bool) (same : a.render isRoot = b.render isRoot) {σ : Type} (ctx : Context σ) :
    a.withNe = b.withNe ∧ Evaluation.evaluate ctx a = Evaluation.evaluate ctx b := by
  have trees := ha.readable.withNe_eq_of_render_eq hb.readable ha.unchained same
  refine ⟨trees, ?_⟩
  rw [← Evaluation.evaluate_withNe ctx a, ← Evaluation.evaluate_withNe ctx b, trees]

theorem IsCondition.withNe_eq_and_evaluate_eq_list :
    let list : Node := .array [.call "f" [.string "\", ]"], .pattern ", \"]", .int (-5), .null]
    let a : Node := .and (.not (.eq list (.field "x"))) (.not (.field "ok"))
    let b : Node := .and (.binary .ne list (.field "x")) (.not (.field "ok"))
    let ctx : Context Unit := ⟨.obj [("ok", .bool false)], none, fun _ => none⟩
    a.render false = b.render false ∧
      a.withNe = b.withNe ∧ Evaluation.evaluate ctx a = Evaluation.evaluate ctx b := by
  have list : (Node.array [.call "f" [.string "\", ]"], .pattern ", \"]", .int (-5),
      .null]).IsOperand := by
    refine .array fun n mem => ?_
    simp only [List.mem_cons, List.not_mem_nil, or_false] at mem
    rcases mem with rfl | rfl | rfl | rfl
    · refine .operand (.call (by decide) fun n mem => ?_)
      rw [List.mem_singleton.mp mem]
      exact .operand (.literal (.string _))
    · exact .operand (.literal (.pattern (by decide)))
    · exact .operand (.literal (.int (-5) (by decide)))
    · exact .operand (.literal .null)
  have x : (Node.field "x").IsOperand := .field (by decide)
  have ok : (Node.not (.field "ok")).IsCondition := .not (.operand (.field (by decide)))
  exact ⟨rfl, IsCondition.withNe_eq_and_evaluate_eq
    (.operand (.logical rfl (.not (.comparison rfl list x)) ok))
    (.operand (.logical rfl (.comparison rfl list x) ok)) false rfl _⟩

end Node

end Verdict
