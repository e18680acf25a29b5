import Verdict.Proofs.Rule.Entry

set_option autoImplicit false

namespace Verdict.Node

def tag? : Datum → Option Datum
  | .obj members => members.lookup tagKey
  | .arr members => members.head?
  | .null | .bool _ | .num _ | .str _ => none

/-- A place for a node among the children of another, with what stands around it. -/
inductive Frame where
  | left (op : String) (other : Datum)
  | right (op : String) (other : Datum)
  | element (before after : List Datum)
  | argument (name : String) (before after : List Datum)

namespace Frame

def around (d : Datum) : Frame → Datum
  | .left op other => tagged "operator" [("operator", .str op), ("left", d), ("right", other)]
  | .right op other => tagged "operator" [("operator", .str op), ("left", other), ("right", d)]
  | .element before after => tagged "array" [("elements", .arr (before ++ d :: after))]
  | .argument name before after =>
      tagged "function"
        [("name", .str name), ("args", tagged "array" [("elements", .arr (before ++ d :: after))])]

def siblings? (before after : List Datum) : Option (Node → List Node) :=
  (decodeEach before).toOption.bind fun before =>
    (decodeEach after).toOption.map fun after n => before ++ n :: after

def parent? : Frame → Option (Node → Node)
  | .left op other =>
      (decodeOperand other).toOption.map fun other n => .operator (.ofName op) (some n) other
  | .right op other =>
      (decodeOperand other).toOption.map fun other n => .operator (.ofName op) other (some n)
  | .element before after => (siblings? before after).map fun nodes n => .array (nodes n)
  | .argument name before after => (siblings? before after).map fun nodes n => .call name (nodes n)

end Frame

section Tags

variable {d : Datum} {ms : List (String × Datum)}

theorem decodeTag_root_eq_inner (named : ∀ x, d ≠ .num x) : decodeTag .root d = decodeTag .inner d := by
  cases d with
  | num x => exact absurd rfl (named x)
  | null | bool | str | arr | obj => rfl

theorem tagAmong_some (tag : Tag) : tagAmong .root (some tag) ms = tagAmong .inner (some tag) ms := by
  induction ms with
  | nil => rfl
  | cons m rest ih =>
    obtain ⟨key, d⟩ := m
    rw [tagAmong, tagAmong, ih]

theorem tagAmong_root_eq_inner (named : ∀ x, ms.lookup tagKey ≠ some (.num x)) :
    tagAmong .root none ms = tagAmong .inner none ms := by
  induction ms with
  | nil => rfl
  | cons m rest ih =>
    obtain ⟨key, d⟩ := m
    rw [tagAmong, tagAmong]
    by_cases tag : key = tagKey
    · subst tag
      rw [if_pos rfl, if_pos rfl, decodeTag_root_eq_inner]
      · simp only [tagAmong_some]
      · rintro x rfl
        exact named x (Datum.lookup_cons_self _ _ _)
    · rw [if_neg tag, if_neg tag]
      apply ih
      intro x found
      exact named x (by rw [Datum.lookup_cons_ne tag, found])

theorem tagAmong_root_of_num {x : Number} (number : ms.lookup tagKey = some (.num x)) :
    (tagAmong .root none ms).toOption = none := by
  induction ms with
  | nil => cases number
  | cons m rest ih =>
    obtain ⟨key, d⟩ := m
    rw [tagAmong]
    by_cases tag : key = tagKey
    · subst tag
      rw [Datum.lookup_cons_self] at number
      cases number
      rw [if_pos rfl]
      have refused := Rule.decodeTag_root_num x
      cases read : decodeTag .root (.num x) with
      | ok tag => simp [read, Except.toOption] at refused
      | error fault => rfl
    · rw [if_neg tag]
      exact ih (by rw [← number, Datum.lookup_cons_ne tag])

end Tags

section Places

variable {d : Datum}

theorem decode_root_eq_inner (named : ∀ x, tag? d ≠ some (.num x)) :
    decode .root d = decode .inner d := by
  cases d with
  | obj ms =>
    rw [decode, decode, tagAmong_root_eq_inner named]
  | arr xs =>
    cases xs with
    | nil => rfl
    | cons tag members =>
      rw [decode, decode, decodeTag_root_eq_inner]
      rintro x rfl
      exact named x rfl
  | null | bool | num | str => rfl

theorem decode_root_of_num {x : Number} (number : tag? d = some (.num x)) :
    (decode .root d).toOption = none := by
  cases d with
  | obj ms =>
    rw [decode, toOption_bind, tagAmong_root_of_num number]
    rfl
  | arr xs =>
    cases xs with
    | nil => cases number
    | cons tag members =>
      cases number
      rw [decode, toOption_bind, Rule.decodeTag_root_num]
      rfl
  | null | bool | num | str => cases number

/-- The root of a rule is read as a node within others is, unless its tag is a number. -/
theorem decode_root_eq_ok_iff {n : Node} :
    decode .root d = .ok n ↔ decode .inner d = .ok n ∧ ∀ x, tag? d ≠ some (.num x) := by
  by_cases named : ∀ x, tag? d ≠ some (.num x)
  · simp [decode_root_eq_inner named, named]
  · simp only [named, and_false, iff_false]
    obtain ⟨x, number⟩ := Classical.not_forall_not.mp named
    intro read
    rw [← toOption_eq_some_iff, decode_root_of_num number] at read
    cases read

end Places

section Around

variable {d : Datum}

theorem decodeEach_append (xs ys : List Datum) :
    (decodeEach (xs ++ ys)).toOption = do
      let before ← (decodeEach xs).toOption
      let after ← (decodeEach ys).toOption
      return before ++ after := by
  induction xs with
  | nil => simp [decodeEach, toOption_ok]
  | cons x xs ih =>
    rw [List.cons_append, decodeEach, decodeEach]
    simp only [toOption_bind, ih]
    cases (decode .inner x).toOption <;> cases (decodeEach xs).toOption <;>
      cases (decodeEach ys).toOption <;> rfl

theorem decodeOperand_toOption (there : d ≠ .null) :
    (decodeOperand d).toOption = (decode .inner d).toOption.map some := by
  have read : decodeOperand d = (decode .inner d).map some := by
    cases d with
    | null => exact absurd rfl there
    | bool | num | str | arr | obj => rfl
  rw [read, toOption_map]

theorem decodeEach_around (before after : List Datum) :
    (decodeEach (before ++ d :: after)).toOption =
      (Frame.siblings? before after).bind fun nodes => (decode .inner d).toOption.map nodes := by
  rw [decodeEach_append, decodeEach]
  simp only [toOption_bind, Frame.siblings?]
  cases (decodeEach before).toOption <;> cases (decode .inner d).toOption <;>
    cases (decodeEach after).toOption <;> rfl

theorem decode_tagged_operator (place : Place) (op : String) (left right : Datum) :
    decode place (tagged "operator" [("operator", .str op), ("left", left), ("right", right)]) = (do
      let l ← decodeOperand left
      let r ← decodeOperand right
      return .operator (.ofName op) l r) := by
  cases place <;> rfl

theorem decode_tagged_array (place : Place) (elements : List Datum) :
    (decode place (tagged "array" [("elements", .arr elements)])).toOption =
      (decodeEach elements).toOption.map .array := by
  have read : decode place (tagged "array" [("elements", .arr elements)]) = (do
      let read ← decodeEach elements >>= fun read => elementMembers (some read) []
      return .array read) := by
    cases place <;> rfl
  rw [read]
  cases decodeEach elements <;> rfl

theorem decode_tagged_function (place : Place) (name : String) (args : List Datum) :
    (decode place (tagged "function"
      [("name", .str name), ("args", tagged "array" [("elements", .arr args)])])).toOption =
      (decodeEach args).toOption.map (.call name) := by
  have read : decode place (tagged "function"
      [("name", .str name), ("args", tagged "array" [("elements", .arr args)])]) = (do
      let read ← decodeEach args >>= fun read => elementMembers (some read) []
      CallParts.finish ⟨some name, some read⟩) := by
    cases place <;> rfl
  rw [read]
  cases decodeEach args <;> rfl

theorem decode_around (place : Place) (frame : Frame) (there : d ≠ .null) :
    (decode place (frame.around d)).toOption =
      frame.parent?.bind fun parent => (decode .inner d).toOption.map parent := by
  cases frame with
  | left op other =>
    rw [Frame.around, decode_tagged_operator, toOption_bind, decodeOperand_toOption there]
    simp only [toOption_bind, Frame.parent?]
    cases (decode .inner d).toOption <;> cases (decodeOperand other).toOption <;> rfl
  | right op other =>
    rw [Frame.around, decode_tagged_operator, toOption_bind]
    simp only [toOption_bind, decodeOperand_toOption there, Frame.parent?]
    cases (decode .inner d).toOption <;> cases (decodeOperand other).toOption <;> rfl
  | element before after =>
    rw [Frame.around, decode_tagged_array, decodeEach_around, Frame.parent?]
    cases Frame.siblings? before after <;> cases (decode .inner d).toOption <;> rfl
  | argument name before after =>
    rw [Frame.around, decode_tagged_function, decodeEach_around, Frame.parent?]
    cases Frame.siblings? before after <;> cases (decode .inner d).toOption <;> rfl

theorem Frame.siblings?_injective {before after : List Datum} {nodes : Node → List Node}
    (readable : siblings? before after = some nodes) {m n : Node} : nodes m = nodes n ↔ m = n := by
  obtain ⟨_, -, rest⟩ := Option.bind_eq_some_iff.mp readable
  obtain ⟨_, -, rfl⟩ := Option.map_eq_some_iff.mp rest
  simp

theorem Frame.parent?_injective {frame : Frame} {parent : Node → Node}
    (readable : frame.parent? = some parent) {m n : Node} : parent m = parent n ↔ m = n := by
  unfold Frame.parent? at readable
  cases frame with
  | left | right =>
    obtain ⟨_, -, rfl⟩ := Option.map_eq_some_iff.mp readable
    simp
  | element | argument =>
    obtain ⟨_, around, rfl⟩ := Option.map_eq_some_iff.mp readable
    simp [siblings?_injective around]

/-- Where the tag is no number, a document is read as the root of a rule to the node it is read to in
any other place. -/
theorem decode_around_eq_ok_iff (named : ∀ x, tag? d ≠ some (.num x)) (there : d ≠ .null)
    {frame : Frame} {parent : Node → Node} (readable : frame.parent? = some parent) (place : Place)
    (n : Node) : decode place (frame.around d) = .ok (parent n) ↔ decode .root d = .ok n := by
  rw [decode_root_eq_inner named, ← toOption_eq_some_iff, ← toOption_eq_some_iff,
    decode_around place frame there, readable]
  cases decode .inner d with
  | error fault => simp [toOption_error]
  | ok m => simp [toOption_ok, Frame.parent?_injective readable]

theorem decode_numbered_field (name : String) :
    let d : Datum := .obj [("name", .str name), (tagKey, .ofInt 1)]
    decode .root d = .error (.wrongType (.ofInt 1) .tag) ∧
      ∀ (frame : Frame) (parent : Node → Node), frame.parent? = some parent →
        ∀ place, decode place (frame.around d) = .ok (parent (.field name)) := by
  intro d
  refine ⟨rfl, fun frame parent readable place => ?_⟩
  have within : decode .inner d = .ok (.field name) := rfl
  have read := decode_around place frame (d := d) nofun
  rw [readable, within] at read
  exact toOption_eq_some_iff.mp read

end Around

end Verdict.Node
