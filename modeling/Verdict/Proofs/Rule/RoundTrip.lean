import Verdict.Proofs.Document.RoundTrip
import Verdict.Proofs.Rule.Decode
import Verdict.Rule.Basic

set_option autoImplicit false

namespace Verdict

namespace Rule

open Document

theorem readTag_quote (tag : String) (rest : List Char) :
    readTag (quote tag.toList ++ rest) = .ok (.str tag, rest) := by
  have read := readValue_string tag 0 0 rest
  have text : quote tag.toList ++ rest = '"' :: (tag.toList.flatMap escapeChar ++ '"' :: rest) := by
    simp [quote]
  rw [text] at read ⊢
  unfold readTag
  rw [skipBlanks_cons (by decide)]
  split
  case h_1 same => cases same
  case h_2 same => cases same
  case h_3 => rw [read]

theorem readRootKey_member {seen : Bool} {key : String}
    (fresh : (seen && key == Node.tagKey) = false) (value rest : List Char) :
    readRootKey seen (member key value ++ rest) = .ok (key, value ++ rest) := by
  have string : readString (key.toList.flatMap escapeChar ++ '"' :: ':' :: (value ++ rest)) =
      .ok (key, ':' :: (value ++ rest)) := by
    rw [readString_escape, String.ofList_toList]
  have text : member key value ++ rest =
      '"' :: (key.toList.flatMap escapeChar ++ '"' :: ':' :: (value ++ rest)) := by
    simp [member, quote]
  have whole := readKey_member key value rest
  rw [text] at whole ⊢
  simp [readRootKey, skipBlanks_cons (c := '"') (by decide), string, fresh, whole]

theorem readRootMembers_write {ms : List (String × Datum)} (nonempty : ms ≠ [])
    (untagged : ∀ m ∈ ms, m.1 ≠ Node.tagKey) (found : ∀ m ∈ ms, Found m.2) (fuel depth : Nat)
    (nested : ∀ m ∈ ms, m.2.nesting ≤ depth)
    (enough : (Text.joinWith [','] (writeMembers ms)).length < fuel) (seen : Bool)
    (earlier : List (String × Datum)) (rest : List Char) :
    readRootMembers fuel depth seen earlier
        (Text.joinWith [','] (writeMembers ms) ++ '\x7d' :: rest) =
      .ok (earlier.reverse ++ ms, rest) := by
  induction ms generalizing fuel seen earlier with
  | nil => exact absurd rfl nonempty
  | cons m more ih =>
    obtain ⟨key, d⟩ := m
    obtain ⟨fuel, rfl⟩ : ∃ n, fuel = n + 1 := ⟨fuel - 1, by omega⟩
    have other : key ≠ Node.tagKey := untagged (key, d) List.mem_cons_self
    have fresh : (seen && key == Node.tagKey) = false := by simp [other]
    have head : Found d := found (key, d) List.mem_cons_self
    have nestedHead : d.nesting ≤ depth := nested (key, d) List.mem_cons_self
    have length := length_le_member key (write d)
    cases more with
    | nil =>
      simp only [writeMembers, Text.joinWith] at enough ⊢
      rw [readRootMembers, readRootKey_member fresh]
      simp only [readRootValue, other, if_false,
        head fuel depth _ (by omega) nestedHead (.cons (c := '\x7d') (by decide) _),
        skipBlanks_cons (c := '\x7d') (by decide), List.reverse_cons]
    | cons e more =>
      obtain ⟨next, e⟩ := e
      simp only [writeMembers] at enough ih ⊢
      rw [length_joinWith_comma] at enough
      have tail := ih (by simp) (fun m mem => untagged m (List.mem_cons_of_mem _ mem))
        (fun m mem => found m (List.mem_cons_of_mem _ mem)) fuel
        (fun m mem => nested m (List.mem_cons_of_mem _ mem)) (by omega)
        (seen || key == Node.tagKey) ((key, d) :: earlier)
      rw [joinWith_comma, readRootMembers, readRootKey_member fresh]
      simp only [readRootValue, other, if_false,
        head fuel depth _ (by omega) nestedHead (.cons (c := ',') (by decide) _),
        skipBlanks_cons (c := ',') (by decide), tail]
      simp

theorem readRootMembers_tagged (tag : String) {ms : List (String × Datum)}
    (untagged : ∀ m ∈ ms, m.1 ≠ Node.tagKey) (found : ∀ m ∈ ms, Found m.2) (fuel depth : Nat)
    (nested : ∀ m ∈ ms, m.2.nesting ≤ depth)
    (enough : (Text.joinWith [','] (writeMembers ((Node.tagKey, .str tag) :: ms))).length < fuel)
    (rest : List Char) :
    readRootMembers fuel depth false []
        (Text.joinWith [','] (writeMembers ((Node.tagKey, .str tag) :: ms)) ++ '\x7d' :: rest) =
      .ok ((Node.tagKey, .str tag) :: ms, rest) := by
  obtain ⟨fuel, rfl⟩ : ∃ n, fuel = n + 1 := ⟨fuel - 1, by omega⟩
  cases ms with
  | nil =>
    simp only [writeMembers, Text.joinWith, write]
    rw [readRootMembers, readRootKey_member rfl]
    simp only [readRootValue, if_true, readTag_quote, skipBlanks_cons (c := '\x7d') (by decide)]
    rfl
  | cons m more =>
    obtain ⟨key, d⟩ := m
    simp only [writeMembers] at enough ⊢
    rw [length_joinWith_comma] at enough
    have tail := readRootMembers_write (by simp) untagged found fuel depth nested
      (by simp only [writeMembers]; omega) true [(Node.tagKey, .str tag)] rest
    simp only [writeMembers] at tail
    rw [joinWith_comma, readRootMembers, readRootKey_member rfl]
    simp only [write, readRootValue, if_true, readTag_quote, skipBlanks_cons (c := ',') (by decide)]
    exact tail

theorem readRoot_object {ms read : List (String × Datum)} (nonempty : ms ≠ [])
    (members : readRootMembers ((write (.obj ms)).length + 1) (maxDepth - 1) false []
      (Text.joinWith [','] (writeMembers ms) ++ ['\x7d']) = .ok (read, [])) :
    readRoot (write (.obj ms)) = .ok (.obj read, []) := by
  have text : write (.obj ms) =
      '\x7b' :: (Text.joinWith [','] (writeMembers ms) ++ ['\x7d']) := rfl
  obtain ⟨c, tail, starts, solid, _, notClose⟩ := (starts_members nonempty).append ['\x7d']
  rw [starts] at text members
  unfold readRoot
  rw [text] at members ⊢
  simp only [skipBlanks_cons (c := '\x7b') (by decide), skipBlanks_cons solid]
  split
  case h_1 same =>
    cases same
    exact absurd rfl notClose
  case h_2 =>
    rw [members]
    rfl

theorem readRoot_write {tag : String} {ms : List (String × Datum)}
    (untagged : ∀ m ∈ ms, m.1 ≠ Node.tagKey) (floatless : (Node.tagged tag ms).Floatless)
    (nested : (Node.tagged tag ms).nesting ≤ maxDepth) :
    readRoot (write (Node.tagged tag ms)) = .ok (Node.tagged tag ms, []) := by
  have found : ∀ m ∈ ms, Found m.2 := fun m mem => by
    cases floatless with
    | obj floatless => exact found_of_floatless (floatless m (List.mem_cons_of_mem _ mem))
  have within : Datum.nestingMembers ms ≤ maxDepth - 1 := by
    simp only [Node.tagged, Datum.nesting, Datum.nestingMembers] at nested
    omega
  have text : write (Node.tagged tag ms) = '\x7b' ::
      (Text.joinWith [','] (writeMembers ((Node.tagKey, .str tag) :: ms)) ++ ['\x7d']) := rfl
  refine readRoot_object (List.cons_ne_nil _ _) (readRootMembers_tagged tag untagged found _ _
    (Datum.nestingMembers_le.mp within) ?_ [])
  change _ < (write (Node.tagged tag ms)).length + 1
  rw [text, List.length_cons, List.length_append]
  omega

end Rule

/-- Encoding a rule and decoding it again gives the rule: its tree and its required fields. -/
theorem Rule.ofJson_toJson {root : Node} (h : root.Exchangeable)
    (nested : root.encode.nesting ≤ 127) :
    Rule.ofJson (Rule.ofNode root).toJson = .ok (Rule.ofNode root) := by
  have text : (Rule.ofNode root).toJson.toList = Document.write root.encode :=
    String.toList_ofList
  obtain ⟨tag, members, document, untagged⟩ := root.encode_eq_tagged
  have read := Rule.readRoot_write untagged (document ▸ h.encode_floatless) (document ▸ nested)
  rw [← document] at read
  simp [Rule.ofJson, text, Rule.ofText, read, Rule.ofDatum, h.decode_encode .root, Except.map,
    Document.isEnd, Document.skipBlanks]

theorem Rule.ofJson_toJson_of_odd_parts :
    let value : Datum := .obj [("\x00é", .ofInt 0xffffffffffffffff),
      ("\n\"", .arr [.null, .obj [], .ofInt (-0x8000000000000000)])]
    let root : Node := .operator (.ofName "xor") none
      (some (.array [.literal .other value, .array [], .call "f" [], .unknown, .not (.field "a\\b")]))
    Rule.ofJson (Rule.ofNode root).toJson = .ok (Rule.ofNode root) := by
  refine Rule.ofJson_toJson (.operator "xor" nofun ?_) (by decide)
  rintro n ⟨⟩
  refine .array fun n mem => ?_
  simp only [List.mem_cons, List.not_mem_nil, or_false] at mem
  rcases mem with rfl | rfl | rfl | rfl | rfl
  · refine .literal .other rfl (.obj fun m mem => ?_)
    simp only [List.mem_cons, List.not_mem_nil, or_false] at mem
    rcases mem with rfl | rfl
    · exact .int _ (by decide)
    · refine .arr fun d mem => ?_
      simp only [List.mem_cons, List.not_mem_nil, or_false] at mem
      rcases mem with rfl | rfl | rfl
      · exact .null
      · exact .obj nofun
      · exact .int _ (by decide)
  · exact .array nofun
  · exact .call "f" nofun
  · exact .unknown
  · refine .operator "not" nofun ?_
    rintro n ⟨⟩
    exact .field _

end Verdict
