import Verdict.Proofs.Numeral.Digits
import Verdict.Proofs.Sentence.Leaves
import Verdict.Proofs.Text.Pieces

set_option autoImplicit false

namespace Verdict

theorem Node.render_literal (kind : LiteralKind) (value : Datum) (isRoot : Bool) :
    ((Node.literal kind value).render isRoot).toList = Literal.text kind value := by
  cases isRoot <;> exact String.toList_ofList

namespace Literal

def hexDigits (b : UInt8) : List Char := [(b.toNat / 16).digitChar, (b.toNat % 16).digitChar]

def ofBytes (bytes : List UInt8) : Datum := .arr (bytes.map fun b => .ofInt b.toNat)

theorem hexPair_toNat (b : UInt8) : hexPair b.toNat = hexDigits b := by
  have small : b.toNat < 256 := b.toNat_lt
  unfold hexPair hexDigits
  split
  · next digit =>
    rw [Nat.toDigits_of_lt_base digit, Nat.div_eq_of_lt digit, Nat.mod_eq_of_lt digit]
    rfl
  · next more =>
    have upper : b.toNat / 16 < 16 := by omega
    rw [Nat.toDigits_of_base_le (by decide) (Nat.not_lt.mp more), Nat.toDigits_of_lt_base upper]
    rfl

theorem digitValue?_digitChar : ∀ d < 16, Numeral.digitValue? 16 d.digitChar = some d := by decide

theorem spells_hexDigits (b : UInt8) : Numeral.Spells 16 (hexDigits b) b.toNat := by
  have small : b.toNat < 256 := b.toNat_lt
  have upper := digitValue?_digitChar (b.toNat / 16) (by omega)
  have lower := digitValue?_digitChar (b.toNat % 16) (by omega)
  refine ⟨List.cons_ne_nil _ _, [b.toNat / 16, b.toNat % 16], ?_, ?_⟩
  · simp only [hexDigits, List.map_cons, List.map_nil, upper, lower]
  · simp only [List.reverse_cons, List.reverse_nil, List.nil_append, List.singleton_append,
      Nat.ofDigits_cons, Nat.ofDigits_nil]
    omega

theorem byteText_ofInt {i : Int} (natural : 0 ≤ i) (small : i < 256) :
    byteText (.ofInt i) = hexPair i.toNat := by
  have fits : -0x8000000000000000 ≤ i ∧ i < 0x10000000000000000 := by omega
  have number : Datum.ofInt i = .num (.int i fits) := by
    simp only [Datum.ofInt, Number.ofInt?, dif_pos fits]
  rw [number, byteText, if_pos natural]

theorem byteText_byte (b : UInt8) : byteText (.ofInt b.toNat) = hexDigits b := by
  have small : b.toNat < 256 := b.toNat_lt
  rw [byteText_ofInt (by omega) (by omega), Int.toNat_natCast, hexPair_toNat]

theorem bytesText_ofBytes (bytes : List UInt8) :
    bytesText (ofBytes bytes) = Text.joinWith [':'] (bytes.map hexDigits) := by
  simp only [ofBytes, bytesText, List.map_map, Function.comp_def, byteText_byte]

theorem mem_hexDigits {b : UInt8} {c : Char} (mem : c ∈ hexDigits b) : c ∈ "0123456789abcdef".toList := by
  have small : b.toNat < 256 := b.toNat_lt
  have all : ∀ d < 16, Nat.digitChar d ∈ "0123456789abcdef".toList := by decide
  simp only [hexDigits, List.mem_cons, List.not_mem_nil, or_false] at mem
  rcases mem with rfl | rfl
  · exact all _ (by omega)
  · exact all _ (by omega)

theorem pieces_bytesText {bytes : List UInt8} (nonempty : bytes ≠ []) :
    Text.pieces ':' (bytesText (ofBytes bytes)) = bytes.map hexDigits := by
  rw [Text.pieces_eq_iff]
  refine ⟨by simpa using nonempty, ?_, ?_⟩
  · rw [List.forall_mem_map]
    intro b _ mem
    exact absurd (mem_hexDigits mem) (by decide)
  · rw [bytesText_ofBytes, Text.joinWith_eq_intercalate]

theorem word?_hexDigits (b : UInt8) : Numeral.word? 8 16 (hexDigits b) = some b.toNat := by
  rw [Numeral.word?_eq_some_iff, Numeral.unsigned?_eq_some_iff (by decide)]
  exact ⟨.inl (spells_hexDigits b), b.toNat_lt⟩

end Literal

/-- A string literal ends at the first quote that no backslash takes, which is its last character, and
what comes before is the string, whatever follows the literal. The text of a literal of bytes falls into
one pair of lower-case hexadecimal digits for each byte. -/
theorem Node.render_readBack (isRoot : Bool) :
    (∀ s : String, ∃ quoted, ((Node.string s).render isRoot).toList = '"' :: quoted ++ ['"'] ∧
      ∀ rest, Sentence.readQuoted (quoted ++ '"' :: rest) = some (s.toList, rest)) ∧
    ∀ kind ∈ [LiteralKind.bytes, .mac], ∀ bytes : List UInt8, bytes ≠ [] →
      let text := ((Node.literal kind (Literal.ofBytes bytes)).render isRoot).toList
      text = [':'].intercalate (bytes.map Literal.hexDigits) ∧
        (∀ pair ∈ Text.pieces ':' text,
          pair.length = 2 ∧ ∀ c ∈ pair, c ∈ "0123456789abcdef".toList) ∧
        (Text.pieces ':' text).map (Numeral.word? 8 16) = bytes.map fun b => some b.toNat := by
  constructor
  · intro s
    refine ⟨s.toList.flatMap Literal.escape, ?_, Sentence.readQuoted_escape s.toList⟩
    rw [Node.string, Node.render_literal]
    exact Literal.stringText_eq s.toList
  · intro kind among bytes nonempty text
    have written : text = Literal.bytesText (Literal.ofBytes bytes) := by
      simp only [List.mem_cons, List.not_mem_nil, or_false] at among
      rcases among with rfl | rfl <;> exact Node.render_literal _ _ isRoot
    rw [written, Literal.pieces_bytesText nonempty]
    refine ⟨?_, ?_, ?_⟩
    · rw [Literal.bytesText_ofBytes, Text.joinWith_eq_intercalate]
    · exact List.forall_mem_map.mpr fun b _ => ⟨rfl, fun c => Literal.mem_hexDigits⟩
    · rw [List.map_map]
      exact List.map_congr_left fun b _ => Literal.word?_hexDigits b

theorem Node.render_readBack_of_backslashes :
    let string := ((Node.string "\\\"\"\\").render true).toList
    let address := ((Node.literal .mac (Literal.ofBytes [0x0a, 0xff, 0x00])).render false).toList
    string = "\"\\\\\\\"\\\"\\\\\"".toList ∧
      Sentence.readQuoted string.tail = some ("\\\"\"\\".toList, []) ∧
      LiteralKind.mac ∈ [LiteralKind.bytes, .mac] ∧ ([0x0a, 0xff, 0x00] : List UInt8) ≠ [] ∧
      address = "0a:ff:00".toList ∧
      (Text.pieces ':' address).map (Numeral.word? 8 16) = [some 10, some 255, some 0] := by
  intro string address
  have among : LiteralKind.mac ∈ [LiteralKind.bytes, .mac] := by decide
  have nonempty : ([0x0a, 0xff, 0x00] : List UInt8) ≠ [] := List.cons_ne_nil _ _
  obtain ⟨quoted, text, read⟩ := (Node.render_readBack true).1 "\\\"\"\\"
  obtain ⟨joined, -, numbers⟩ := (Node.render_readBack false).2 .mac among [0x0a, 0xff, 0x00] nonempty
  have tail : string.tail = quoted ++ ['"'] := congrArg List.tail text
  exact ⟨by decide +kernel, tail ▸ read [], among, nonempty, joined.trans (by decide), numbers⟩

end Verdict
