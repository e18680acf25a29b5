import Verdict.Proofs.Rule.Tree

set_option autoImplicit false

namespace Verdict.Node

/-- Where a node stands: which child of its parent it is, and then where its parent stands. So
`p <:+ q` says that `q` is `p` or a position below it. -/
abbrev Position := List Nat

def at? (root : Node) : Position → Option Node
  | [] => some root
  | i :: above => (root.at? above).bind (·.children[i]?)

theorem at?_append (root : Node) (below above : Position) :
    root.at? (below ++ above) = (root.at? above).bind (·.at? below) := by
  induction below with
  | nil => simp [at?]
  | cons i below ih => simp only [List.cons_append, at?, ih, Option.bind_assoc]

theorem at?_child {root parent n : Node} {place : Position} {i : Nat}
    (stands : root.at? place = some parent) (child : parent.children[i]? = some n) :
    root.at? (i :: place) = some n := by
  rw [at?, stands, Option.bind_some, child]

theorem children_left {op : Operator} {left right : Option Node} {n : Node} (mem : n ∈ left) :
    (operator op left right).children[0]? = some n := by
  rw [Option.mem_def.mp mem]
  rfl

theorem children_right {op : Operator} {left right : Option Node} {n : Node} (mem : n ∈ right) :
    (operator op left right).children[left.toList.length]? = some n := by
  rw [Option.mem_def.mp mem]
  cases left <;> rfl

mutual

/-- The positions of the calls in a tree that stands at `here`: those within its children from left
to right, and then its own. -/
def callSites (here : Position) : Node → List Position
  | .operator _ left right =>
      callSitesOption (0 :: here) left ++ callSitesOption (left.toList.length :: here) right
  | .array elements => callSitesFrom here 0 elements
  | .call _ args => callSitesFrom here 0 args ++ [here]
  | .field _ | .literal .. | .unknown => []

def callSitesOption (here : Position) : Option Node → List Position
  | none => []
  | some n => callSites here n

def callSitesFrom (above : Position) : Nat → List Node → List Position
  | _, [] => []
  | i, n :: rest => callSites (i :: above) n ++ callSitesFrom above (i + 1) rest

end

def ownSite (here : Position) : Node → List Position
  | .call .. => [here]
  | .operator .. | .field _ | .literal .. | .array _ | .unknown => []

theorem callSites_eq (here : Position) (n : Node) :
    callSites here n = callSitesFrom here 0 n.children ++ ownSite here n := by
  cases n with
  | operator op left right =>
    cases left <;> cases right <;> simp [callSites, callSitesOption, callSitesFrom, children, ownSite]
  | call name args => rfl
  | array elements => simp [callSites, children, ownSite]
  | field | literal | unknown => rfl

theorem mem_ownSite {place here : Position} {n : Node} :
    place ∈ ownSite here n ↔ place = here ∧ ∃ name args, n = .call name args := by
  cases n <;> simp [ownSite]

theorem mem_callSitesFrom {place above : Position} {i : Nat} {nodes : List Node} :
    place ∈ callSitesFrom above i nodes ↔
      ∃ j n, nodes[j]? = some n ∧ place ∈ callSites ((i + j) :: above) n := by
  induction nodes generalizing i with
  | nil => simp [callSitesFrom]
  | cons head rest ih =>
    rw [callSitesFrom, List.mem_append, ih]
    constructor
    · rintro (mem | ⟨j, n, found, mem⟩)
      · exact ⟨0, head, rfl, mem⟩
      · exact ⟨j + 1, n, found, by rwa [Nat.add_right_comm] at mem⟩
    · rintro ⟨j, n, found, mem⟩
      cases j with
      | zero =>
        cases found
        exact .inl mem
      | succ j => exact .inr ⟨j, n, found, by rwa [Nat.add_right_comm]⟩

theorem induct_children {motive : Node → Prop}
    (step : ∀ n : Node, (∀ c ∈ n.children, motive c) → motive n) (n : Node) : motive n := by
  induction n using Node.induct with
  | operator op left right leftIh rightIh =>
    refine step _ fun c mem => ?_
    rcases List.mem_append.mp mem with mem | mem
    · exact leftIh c (Option.mem_toList.mp mem)
    · exact rightIh c (Option.mem_toList.mp mem)
  | array elements ih => exact step _ ih
  | call name args ih => exact step _ ih
  | field | literal | unknown => exact step _ nofun

theorem mem_callSites {place here : Position} {root : Node} :
    place ∈ callSites here root ↔
      ∃ below, place = below ++ here ∧ ∃ name args, root.at? below = some (.call name args) := by
  induction root using induct_children generalizing place here with
  | step n ih =>
    rw [callSites_eq, List.mem_append, mem_callSitesFrom, mem_ownSite]
    constructor
    · rintro (⟨j, c, child, mem⟩ | ⟨rfl, name, args, rfl⟩)
      · obtain ⟨below, rfl, name, args, call⟩ := (ih c (List.mem_of_getElem? child)).mp mem
        have stands : n.at? [j] = some c := child
        refine ⟨below ++ [j], by simp, name, args, ?_⟩
        rw [at?_append, stands, Option.bind_some, call]
      · exact ⟨[], rfl, name, args, rfl⟩
    · rintro ⟨below, rfl, name, args, call⟩
      rcases List.eq_nil_or_concat below with rfl | ⟨under, j, rfl⟩
      · cases call
        exact .inr ⟨rfl, name, args, rfl⟩
      · rw [List.concat_eq_append, at?_append] at call
        obtain ⟨c, child, call⟩ := Option.bind_eq_some_iff.mp call
        replace child : n.children[j]? = some c := child
        refine .inl ⟨j, c, child, (ih c (List.mem_of_getElem? child)).mpr ?_⟩
        exact ⟨under, by simp, name, args, call⟩

theorem suffix_of_mem_callSites {place here : Position} {root : Node}
    (mem : place ∈ callSites here root) : here <:+ place := by
  obtain ⟨below, rfl, _⟩ := mem_callSites.mp mem
  exact List.suffix_append below here

theorem eq_of_suffix {above place : Position} {i j : Nat} (first : (i :: above) <:+ place)
    (second : (j :: above) <:+ place) : i = j := by
  have same := (List.suffix_of_suffix_length_le first second (by simp)).eq_of_length (by simp)
  exact (List.cons.inj same).1

theorem callSites_pairwise (here : Position) (root : Node) :
    (callSites here root).Pairwise fun earlier later => ¬earlier <:+ later := by
  induction root using induct_children generalizing here with
  | step n ih =>
    have listed (i : Nat) (nodes : List Node) (among : ∀ c ∈ nodes, c ∈ n.children) :
        (callSitesFrom here i nodes).Pairwise fun earlier later => ¬earlier <:+ later := by
      induction nodes generalizing i with
      | nil => exact .nil
      | cons head rest listIh =>
        obtain ⟨first, others⟩ := List.forall_mem_cons.mp among
        rw [callSitesFrom, List.pairwise_append]
        refine ⟨ih head first _, listIh _ others, ?_⟩
        intro earlier mem later mem' within
        obtain ⟨j, c, -, mem'⟩ := mem_callSitesFrom.mp mem'
        have apart := eq_of_suffix ((suffix_of_mem_callSites mem).trans within)
          (suffix_of_mem_callSites mem')
        omega
    rw [callSites_eq, List.pairwise_append]
    refine ⟨listed 0 n.children fun _ => id, ?_, ?_⟩
    · cases n <;> simp [ownSite]
    · intro earlier mem later mem' within
      obtain ⟨rfl, _⟩ := mem_ownSite.mp mem'
      obtain ⟨j, c, -, mem⟩ := mem_callSitesFrom.mp mem
      have short := ((suffix_of_mem_callSites mem).trans within).length_le
      rw [List.length_cons] at short
      omega

end Verdict.Node
