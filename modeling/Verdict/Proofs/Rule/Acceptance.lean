import Verdict.Proofs.Rule.Entry
import Verdict.Proofs.Rule.RoundTrip
import Verdict.Rule.Limits

set_option autoImplicit false

namespace Verdict

namespace Rule

open Document

section Sound

theorem readTag_sound {text rest : List Char} {d : Datum} (h : readTag text = .ok (d, rest)) :
    Denotes text d rest ∧ d.nesting = 0 := by
  unfold readTag at h
  split at h
  · cases h
  · cases h
  · split at h
    · cases h
    · next s more read =>
      cases h
      rw [readValue_skipBlanks] at read
      exact ⟨((readers_sound 1).1 read).1, rfl⟩
    · cases h

theorem readRootValue_sound {key : String} {fuel depth : Nat} {text rest : List Char} {d : Datum}
    (h : readRootValue key fuel depth text = .ok (d, rest)) :
    Denotes text d rest ∧ d.nesting ≤ depth := by
  unfold readRootValue at h
  split at h
  · obtain ⟨derived, flat⟩ := readTag_sound h
    exact ⟨derived, flat ▸ Nat.zero_le depth⟩
  · split at h
    · cases h
    · next read =>
      cases h
      exact (readers_sound fuel).1 read

theorem readRootKey_sound {seen : Bool} {text value : List Char} {key : String}
    (h : readRootKey seen text = .ok (key, value)) : DenotesKey text key value := by
  apply readKey_eq_ok_iff.mp
  unfold readRootKey at h
  split at h
  · split at h
    · cases h
    · split at h
      · cases h
      · split at h
        · cases h
        · next read =>
          cases h
          exact read
  · split at h
    · cases h
    · next read =>
      cases h
      exact read

theorem readRootMembers_sound {fuel depth : Nat} {seen : Bool} {earlier ms : List (String × Datum)}
    {text rest : List Char} (h : readRootMembers fuel depth seen earlier text = .ok (ms, rest)) :
    ∃ more, ms = earlier.reverse ++ more ∧ DenotesMembers text more rest ∧
      Datum.nestingMembers more ≤ depth := by
  induction fuel generalizing seen earlier text with
  | zero => cases h
  | succ fuel ih =>
    unfold readRootMembers at h
    split at h
    · cases h
    · next key start named =>
      have colon := readRootKey_sound named
      split at h
      · cases h
      · next d after read =>
        obtain ⟨derived, nested⟩ := readRootValue_sound read
        split at h
        · cases h
        · next closed =>
          cases h
          exact ⟨[(key, d)], by simp, .last colon derived closed,
            by simpa [Datum.nestingMembers] using nested⟩
        · next comma =>
          obtain ⟨more, rfl, others, nestedOthers⟩ := ih h
          refine ⟨(key, d) :: more, by simp, .next colon derived comma others, ?_⟩
          exact Nat.max_le.mpr ⟨nested, nestedOthers⟩
        · cases h

theorem readRootElements_sound {fuel depth : Nat} {xs : List Datum} {text rest : List Char}
    (h : readRootElements fuel depth text = .ok (xs, rest)) :
    DenotesElements text xs rest ∧ Datum.nestingList xs ≤ depth := by
  unfold readRootElements at h
  split at h
  · cases h
  · next tag after read =>
    obtain ⟨derived, flat⟩ := readTag_sound read
    split at h
    · cases h
    · next closed =>
      cases h
      exact ⟨.last derived closed, by simp [Datum.nestingList, flat]⟩
    · next comma =>
      split at h
      · cases h
      · next read =>
        cases h
        obtain ⟨more, rfl, others, nested⟩ := (readers_sound fuel).2.1 read
        exact ⟨.next derived comma others, by simpa [Datum.nestingList, flat] using nested⟩
    · cases h

theorem readRoot_sound {text rest : List Char} {d : Datum} (h : readRoot text = .ok (d, rest)) :
    Denotes text d rest ∧ d.nesting ≤ maxDepth := by
  have within {n : Nat} (nested : n ≤ maxDepth - 1) : 1 + n ≤ maxDepth := by
    simp only [maxDepth] at nested ⊢
    omega
  unfold readRoot at h
  simp only at h
  split at h
  · next body opened =>
    split at h
    · next closed =>
      cases h
      exact ⟨.noMembers opened closed, by decide⟩
    · obtain ⟨_, read, same⟩ := map_eq_ok h
      cases same
      rw [readRootMembers_skipBlanks] at read
      obtain ⟨ms, rfl, derived, nested⟩ := readRootMembers_sound read
      exact ⟨.members opened derived, within nested⟩
  · next body opened =>
    split at h
    · next closed =>
      cases h
      exact ⟨.noElements opened closed, by decide⟩
    · obtain ⟨_, read, same⟩ := map_eq_ok h
      cases same
      rw [readRootElements_skipBlanks] at read
      obtain ⟨derived, nested⟩ := readRootElements_sound read
      exact ⟨.elements opened derived, within nested⟩
  · split at h
    · cases h
    · next read =>
      cases h
      rw [readValue_skipBlanks] at read
      obtain ⟨derived, nested⟩ := (readers_sound _).1 read
      exact ⟨derived, Nat.le_trans nested (Nat.sub_le maxDepth 1)⟩

theorem nesting_le_of_ofJson {json : String} {d : Datum} {r : Rule} (document : IsDocument json.toList d)
    (read : ofJson json = .ok r) : d.nesting ≤ maxDepth := by
  obtain ⟨rest, derived, -⟩ := document
  unfold ofJson ofText at read
  split at read
  · cases read
  · next e more found =>
    obtain ⟨other, nested⟩ := readRoot_sound found
    obtain ⟨rfl, -⟩ := derived.unique other
    exact nested

end Sound

theorem toList_toJson (root : Node) : (ofNode root).toJson.toList = write root.encode :=
  String.toList_ofList

theorem isDocument_toJson {root : Node} (h : root.Exchangeable) :
    IsDocument (ofNode root).toJson.toList root.encode := by
  rw [toList_toJson]
  exact isDocument_write h.encode_floatless

theorem ofJson_toJson_eq_ok_iff {root : Node} (h : root.Exchangeable) :
    ofJson (ofNode root).toJson = .ok (ofNode root) ↔ root.encode.nesting ≤ maxDepth := by
  constructor
  · exact nesting_le_of_ofJson (isDocument_toJson h)
  · intro nested
    obtain ⟨tag, members, document, untagged⟩ := root.encode_eq_tagged
    have read := readRoot_write untagged (document ▸ h.encode_floatless) (document ▸ nested)
    rw [← document, ← toList_toJson] at read
    simp [ofJson, ofText, read, ofDatum, h.decode_encode .root, Except.map, isEnd, skipBlanks]

end Rule

namespace Node

theorem encodeList_eq_map (nodes : List Node) : encodeList nodes = nodes.map encode := by
  induction nodes with
  | nil => rfl
  | cons head rest ih => rw [encodeList, ih, List.map_cons]

theorem nestingList_encodeList_le {nodes : List Node} {bound : Nat} :
    Datum.nestingList (encodeList nodes) ≤ bound ↔ ∀ n ∈ nodes, n.encode.nesting ≤ bound := by
  rw [encodeList_eq_map, Datum.nestingList_le, List.forall_mem_map]

theorem depth_le_depthList {nodes : List Node} {n : Node} (mem : n ∈ nodes) :
    n.depth ≤ depthList nodes := by
  induction nodes with
  | nil => cases mem
  | cons head rest ih =>
    rw [depthList]
    rcases List.mem_cons.mp mem with rfl | mem
    · exact Nat.le_max_left _ _
    · exact Nat.le_trans (ih mem) (Nat.le_max_right _ _)

section Nesting

theorem nesting_encode_operator (op : Operator) (left right : Option Node) :
    (operator op left right).encode.nesting =
      1 + max (encodeOption left).nesting (encodeOption right).nesting := by
  simp only [encode, tagged, Datum.nesting, Datum.nestingMembers]
  omega

theorem nesting_encode_field (name : String) : (field name).encode.nesting = 1 := rfl

theorem nesting_encode_literal (kind : LiteralKind) (value : Datum) :
    (literal kind value).encode.nesting = 1 + value.nesting := by
  simp only [encode, tagged, Datum.nesting, Datum.nestingMembers]
  omega

theorem nesting_encode_array (elements : List Node) :
    (array elements).encode.nesting = 2 + Datum.nestingList (encodeList elements) := by
  simp only [encode, tagged, Datum.nesting, Datum.nestingMembers]
  omega

theorem nesting_encode_call (name : String) (args : List Node) :
    (call name args).encode.nesting = 3 + Datum.nestingList (encodeList args) := by
  simp only [encode, tagged, Datum.nesting, Datum.nestingMembers]
  omega

theorem nesting_encode_le {root : Node} {bound : Nat}
    (literals : ∀ kind value, Within (.literal kind value) root → value.nesting ≤ bound) :
    root.encode.nesting ≤ 3 * root.depth + bound := by
  have side {operand? : Option Node} (h : ∀ n ∈ operand?, n.encode.nesting ≤ 3 * n.depth + bound) :
      (encodeOption operand?).nesting ≤ 3 * depthOption operand? + bound := by
    cases operand? with
    | none => exact Nat.zero_le _
    | some n => exact h n rfl
  have each {nodes : List Node} (h : ∀ n ∈ nodes, n.encode.nesting ≤ 3 * n.depth + bound) :
      Datum.nestingList (encodeList nodes) ≤ 3 * depthList nodes + bound := by
    apply nestingList_encodeList_le.mpr
    intro n mem
    have nested := h n mem
    have shallow := depth_le_depthList mem
    omega
  induction root using Node.induct with
  | operator op left right leftIh rightIh =>
    have first := side fun n mem => leftIh n mem fun kind value within =>
      literals kind value (within.ofLeft mem)
    have second := side fun n mem => rightIh n mem fun kind value within =>
      literals kind value (within.ofRight mem)
    rw [nesting_encode_operator, depth]
    omega
  | field name =>
    rw [nesting_encode_field, depth]
    omega
  | literal kind value =>
    have here := literals kind value .self
    rw [nesting_encode_literal, depth]
    omega
  | array elements ih =>
    have nested := each fun n mem => ih n mem fun kind value within =>
      literals kind value (within.ofElement mem)
    rw [nesting_encode_array, depth]
    omega
  | call name args ih =>
    have nested := each fun n mem => ih n mem fun kind value within =>
      literals kind value (within.ofArgument mem)
    -- an object, the array node it holds the arguments in, and the list of that node
    rw [nesting_encode_call, depth]
    omega
  | unknown =>
    change 1 ≤ _
    rw [depth]
    omega

end Nesting

end Node

namespace Limits

variable {limits : Limits} {root : Node} {rule : Rule}

theorem compile_eq_ok_iff : limits.compile root = .ok rule ↔
    root.depth ≤ limits.maxDepth ∧ root.count ≤ limits.maxNodes ∧ rule = .ofNode root := by
  unfold compile check
  by_cases deep : limits.maxDepth < root.depth
  · simp [deep, Except.map, Nat.not_le.mpr deep]
  · by_cases many : limits.maxNodes < root.count
    · simp [deep, many, Except.map, Nat.not_le.mpr many]
    · simp [deep, many, Except.map, Nat.not_lt.mp, eq_comm]

theorem compileJson_toJson_of_deep (h : root.Exchangeable) (deep : 127 < root.encode.nesting) :
    ∃ fault, limits.compileJson (Rule.ofNode root).toJson = .error (.document fault) := by
  cases read : Rule.ofJson (Rule.ofNode root).toJson with
  | ok r =>
    have shallow := Rule.nesting_le_of_ofJson (Rule.isDocument_toJson h) read
    exact absurd shallow (Nat.not_le.mpr deep)
  | error fault => exact ⟨fault, by simp only [compileJson, read]⟩

/-- A tree is accepted from the text of its document if it is accepted itself and the text nests no
more than 127 containers. -/
theorem compileJson_toJson_eq_ok_iff (h : root.Exchangeable) :
    limits.compileJson (Rule.ofNode root).toJson = .ok rule ↔
      limits.compile root = .ok rule ∧ root.encode.nesting ≤ 127 := by
  by_cases nested : root.encode.nesting ≤ 127
  · have read : Rule.ofJson (Rule.ofNode root).toJson = .ok (.ofNode root) :=
      (Rule.ofJson_toJson_eq_ok_iff h).mpr nested
    have same : (Rule.ofNode root).root = root := rfl
    simp only [compileJson, read, same, nested, and_true]
    cases limits.compile root <;> simp
  · obtain ⟨fault, refused⟩ : ∃ fault, limits.compileJson (Rule.ofNode root).toJson = .error _ :=
      compileJson_toJson_of_deep h (Nat.not_le.mp nested)
    simp [refused, nested]

theorem compileJson_toJson_of_shallow (h : root.Exchangeable) (shallow : root.depth ≤ 42)
    (literals : ∀ kind value, Node.Within (.literal kind value) root → value.nesting ≤ 1)
    (accepted : limits.compile root = .ok rule) :
    limits.compileJson (Rule.ofNode root).toJson = .ok rule := by
  apply (compileJson_toJson_eq_ok_iff h).mpr
  have nested := Node.nesting_encode_le literals
  exact ⟨accepted, by omega⟩

end Limits

namespace Node

def nestedCalls : Nat → Node
  | 0 => .field "x"
  | n + 1 => .call "f" [nestedCalls n]

theorem depth_nestedCalls (n : Nat) : (nestedCalls n).depth = n + 1 := by
  induction n with
  | zero => rfl
  | succ n ih =>
    rw [nestedCalls, depth, depthList, depthList, ih]
    omega

theorem count_nestedCalls (n : Nat) : (nestedCalls n).count = n + 1 := by
  induction n with
  | zero => rfl
  | succ n ih =>
    rw [nestedCalls, count, countList, countList, ih]
    omega

theorem nesting_encode_nestedCalls (n : Nat) : (nestedCalls n).encode.nesting = 3 * n + 1 := by
  induction n with
  | zero => rfl
  | succ n ih =>
    rw [nestedCalls, nesting_encode_call, encodeList, encodeList, Datum.nestingList, Datum.nestingList,
      ih]
    omega

theorem exchangeable_nestedCalls (n : Nat) : (nestedCalls n).Exchangeable := by
  induction n with
  | zero => exact .field "x"
  | succ n ih =>
    apply Exchangeable.call
    intro arg mem
    rw [List.mem_singleton.mp mem]
    exact ih

end Node

open Node in
/-- The default limits admit up to 63 calls within each other, but of their texts only those of up to
42 calls are read: from 43 to 63 the text of a tree is refused that is accepted itself. -/
theorem Limits.compileJson_nestedCalls (n : Nat) :
    let limits : Limits := {}
    let rule := Rule.ofNode (nestedCalls n)
    (limits.compile (nestedCalls n) = .ok rule ↔ n ≤ 63) ∧
      (limits.compileJson rule.toJson = .ok rule ↔ n ≤ 42) := by
  intro limits rule
  have accepted : limits.compile (nestedCalls n) = .ok rule ↔ n ≤ 63 := by
    rw [compile_eq_ok_iff, depth_nestedCalls, count_nestedCalls]
    change n + 1 ≤ 64 ∧ n + 1 ≤ 10000 ∧ rule = rule ↔ _
    simp only [and_true]
    omega
  refine ⟨accepted, ?_⟩
  rw [compileJson_toJson_eq_ok_iff (exchangeable_nestedCalls n), accepted, nesting_encode_nestedCalls]
  omega

open Node in
theorem Limits.exists_refused_text : ∃ root : Node, root.Exchangeable ∧
    (∃ rule, compile {} root = .ok rule) ∧
      ∃ fault, compileJson {} (Rule.ofNode root).toJson = .error (.document fault) := by
  have deep : 127 < (nestedCalls 43).encode.nesting := by
    rw [nesting_encode_nestedCalls]
    decide
  have accepted := (compileJson_nestedCalls 43).1.mpr (by decide)
  refine ⟨nestedCalls 43, exchangeable_nestedCalls 43, ⟨_, accepted⟩, ?_⟩
  exact compileJson_toJson_of_deep (exchangeable_nestedCalls 43) deep

end Verdict
