import Verdict.Cidr
import Verdict.Proofs.Numeral.Digits
import Verdict.Proofs.Text.Pieces

set_option autoImplicit false

namespace Verdict.Cidr

def Octet (text : List Char) (n : Nat) : Prop :=
  Numeral.Spells 10 text n ∧ n ≤ 255

inductive Quad : List Char → Nat → Prop where
  | mk {s t u v : List Char} {a b c d : Nat} : Octet s a → Octet t b → Octet u c → Octet v d →
      Quad (['.'].intercalate [s, t, u, v]) (((a * 256 + b) * 256 + c) * 256 + d)

def Width (text : List Char) (p : Nat) : Prop :=
  Numeral.Spells 10 text p ∧ p ≤ 32

inductive PlusWidth : List Char → Nat → Prop where
  | mk {digits : List Char} {p : Nat} : Width digits p → PlusWidth ('+' :: digits) p

/-- A dotted quad, one slash and a width. -/
inductive Network : List Char → Nat → Nat → Prop where
  | mk {quad width : List Char} {n p : Nat} : Quad quad n → Width width p →
      Network (quad ++ '/' :: width) n p

inductive PlusNetwork : List Char → Nat → Nat → Prop where
  | mk {quad width : List Char} {n p : Nat} : Quad quad n → PlusWidth width p →
      PlusNetwork (quad ++ '/' :: width) n p

section Spelling

theorem isDigit_of_spells {text : List Char} {n : Nat} (h : Numeral.Spells 10 text n) :
    ∀ c ∈ text, c.isDigit :=
  (Numeral.spells_ten_iff.mp h).2.1

theorem not_mem_of_spells {text : List Char} {n : Nat} (h : Numeral.Spells 10 text n) {c : Char}
    (other : c.isDigit = false) : c ∉ text := by
  intro mem
  rw [isDigit_of_spells h c mem] at other
  cases other

theorem Quad.slash_not_mem {text : List Char} {n : Nat} (h : Quad text n) : '/' ∉ text := by
  cases h with
  | mk first second third fourth =>
    have free {group : List Char} {n : Nat} (octet : Octet group n) : '/' ∉ group :=
      not_mem_of_spells octet.1 rfl
    simp [List.intercalate, free first, free second, free third, free fourth]

theorem Quad.lt {text : List Char} {n : Nat} (h : Quad text n) : n < 2 ^ 32 := by
  cases h with
  | mk first second third fourth =>
    have := first.2
    have := second.2
    have := third.2
    have := fourth.2
    omega

theorem PlusNetwork.not_network {text : List Char} {n m p q : Nat} (h : PlusNetwork text n p) :
    ¬Network text m q := by
  cases h with
  | @mk quad _ _ _ here plus =>
    cases plus with
    | @mk digits _ _ =>
      generalize shape : quad ++ '/' :: '+' :: digits = text
      rintro ⟨there, width⟩
      -- neither quad holds a slash, so both texts are cut at the same place
      have first := Text.cutAt?_eq_some_iff.mpr ⟨shape.symm, here.slash_not_mem⟩
      rw [Text.cutAt?_eq_some_iff.mpr ⟨rfl, there.slash_not_mem⟩] at first
      cases first
      exact absurd (isDigit_of_spells width.1 '+' List.mem_cons_self) (by decide)

end Spelling

section Reading

theorem octet?_eq_some_iff {text : List Char} {n : Nat} : octet? text = some n ↔ Octet text n := by
  rw [octet?, Option.ite_none_right_eq_some, Numeral.word?_eq_some_iff,
    Numeral.unsigned?_eq_some_iff (by decide), List.all_eq_true]
  constructor
  · rintro ⟨digits, spelled | ⟨rest, rfl, -⟩, fits⟩
    · exact ⟨spelled, Nat.le_of_lt_succ fits⟩
    · exact absurd (digits '+' List.mem_cons_self) (by decide)
  · rintro ⟨spelled, fits⟩
    exact ⟨isDigit_of_spells spelled, .inl spelled, Nat.lt_succ_of_le fits⟩

theorem address?_eq_some_iff {text : String} {n : Nat} :
    address? text = some n ↔ Quad text.toList n := by
  constructor
  · intro read
    unfold address? at read
    split at read
    · next s t u v parts =>
      split at read
      · next a b c d first second third fourth =>
        cases read
        rw [← (Text.pieces_eq_iff.mp parts).2.2]
        exact .mk (octet?_eq_some_iff.mp first) (octet?_eq_some_iff.mp second)
          (octet?_eq_some_iff.mp third) (octet?_eq_some_iff.mp fourth)
      · cases read
    · cases read
  · intro quad
    generalize shape : text.toList = chars at quad
    cases quad with
    | @mk s t u v a b c d first second third fourth =>
      have free {group : List Char} {n : Nat} (octet : Octet group n) : '.' ∉ group :=
        not_mem_of_spells octet.1 rfl
      have parts : Text.pieces '.' text.toList = [s, t, u, v] :=
        Text.pieces_eq_iff.mpr ⟨List.cons_ne_nil _ _,
          by simp [free first, free second, free third, free fourth], shape.symm⟩
      simp only [address?, parts, octet?_eq_some_iff.mpr first, octet?_eq_some_iff.mpr second,
        octet?_eq_some_iff.mpr third, octet?_eq_some_iff.mpr fourth]

theorem word?_width_iff {text : List Char} {p : Nat} :
    Numeral.word? 32 10 text = some p ∧ p ≤ 32 ↔ Width text p ∨ PlusWidth text p := by
  rw [Numeral.word?_eq_some_iff, Numeral.unsigned?_eq_some_iff (by decide)]
  constructor
  · rintro ⟨⟨spelled | ⟨digits, rfl, spelled⟩, -⟩, small⟩
    · exact .inl ⟨spelled, small⟩
    · exact .inr (.mk ⟨spelled, small⟩)
  · have fits {p : Nat} (small : p ≤ 32) : p < twoTo 32 := Nat.lt_of_le_of_lt small (by decide)
    rintro (⟨spelled, small⟩ | ⟨spelled, small⟩)
    · exact ⟨⟨.inl spelled, fits small⟩, small⟩
    · exact ⟨⟨.inr ⟨_, rfl, spelled⟩, fits small⟩, small⟩

theorem inside?_eq_contains? {ip cidr : String} {a n p : Nat} (address : Quad ip.toList a)
    (network : Network cidr.toList n p ∨ PlusNetwork cidr.toList n p) :
    inside? ip cidr = contains? a n p := by
  obtain ⟨quad, width, shape, network, number⟩ : ∃ quad width,
      cidr.toList = quad ++ '/' :: width ∧ Quad quad n ∧ (Width width p ∨ PlusWidth width p) := by
    generalize cidr.toList = chars at network
    rcases network with ⟨network, width⟩ | ⟨network, width⟩
    · exact ⟨_, _, rfl, network, .inl width⟩
    · exact ⟨_, _, rfl, network, .inr width⟩
  obtain ⟨word, small⟩ := word?_width_iff.mpr number
  have cut := Text.cutAt?_eq_some_iff.mpr ⟨shape, network.slash_not_mem⟩
  have read : address? (String.ofList quad) = some n :=
    address?_eq_some_iff.mpr (by rwa [String.toList_ofList])
  simp only [inside?, cut, word, address?_eq_some_iff.mpr address, read, if_pos small]

theorem inside_eq_true_iff {ip cidr : String} : inside ip cidr = true ↔ inside? ip cidr = some true := by
  rw [inside]
  cases inside? ip cidr <;> simp

/-- An address is inside where both texts can be read and the addresses agree under the mask. -/
theorem inside_iff {ip cidr : String} :
    inside ip cidr = true ↔ ∃ a n p, Quad ip.toList a ∧
      (Network cidr.toList n p ∨ PlusNetwork cidr.toList n p) ∧ contains? a n p = some true := by
  rw [inside_eq_true_iff]
  constructor
  · intro holds
    unfold inside? at holds
    split at holds
    · cases holds
    · next quad width cut =>
      split at holds
      · next p a n word address network =>
        split at holds
        · next small =>
          rw [address?_eq_some_iff] at address network
          rw [String.toList_ofList] at network
          rw [(Text.cutAt?_eq_some_iff.mp cut).1]
          refine ⟨a, n, p, address, ?_, holds⟩
          rcases word?_width_iff.mp ⟨word, small⟩ with width | width
          · exact .inl (.mk network width)
          · exact .inr (.mk network width)
        · cases holds
      · cases holds
  · rintro ⟨a, n, p, address, network, same⟩
    rw [inside?_eq_contains? address network, same]

/-- Not every text that is taken for a network is one. -/
theorem exists_inside_of_no_network :
    ∃ ip cidr, inside ip cidr = true ∧ ∀ n p, ¬Network cidr.toList n p := by
  have quad : Quad "10.0.0.0".toList 0x0a000000 := address?_eq_some_iff.mp (by decide +kernel)
  have width : PlusWidth ['+', '8'] 8 := .mk ⟨⟨nofun, [8], rfl, rfl⟩, by decide⟩
  have plus : PlusNetwork "10.0.0.0/+8".toList 0x0a000000 8 := .mk quad width
  refine ⟨"10.0.0.0", "10.0.0.0/+8", ?_, fun n p => plus.not_network⟩
  exact inside_iff.mpr ⟨_, _, _, quad, .inr plus, by decide⟩

end Reading

end Verdict.Cidr
