import Verdict.Proofs.Cidr.Grammar

set_option autoImplicit false

namespace Verdict.Cidr

section Masks

theorem mask?_spec {p : Nat} (small : p ≤ 32) :
    ∃ mask, mask? p = some mask ∧
      ∀ i, mask.getLsbD i = (decide (i < 32) && decide (32 - p ≤ i)) := by
  unfold mask?
  by_cases none : p = 0
  · subst none
    refine ⟨0, rfl, fun i => ?_⟩
    grind
  · have narrow : 32 - p < 32 := by omega
    rw [if_neg none, difference?, if_pos small, Option.bind_some, shiftLeft?, if_pos narrow]
    refine ⟨_, rfl, fun i => ?_⟩
    rw [BitVec.getLsbD_shiftLeft, BitVec.getLsbD_allOnes]
    grind

theorem and_mask_eq_iff {x y mask : BitVec 32} {p : Nat}
    (bits : ∀ i, mask.getLsbD i = (decide (i < 32) && decide (32 - p ≤ i))) :
    x &&& mask = y &&& mask ↔ x >>> (32 - p) = y >>> (32 - p) := by
  constructor
  · intro same
    apply BitVec.eq_of_getLsbD_eq
    intro i bound
    have bit := congrArg (BitVec.getLsbD · (32 - p + i)) same
    simp only [BitVec.getLsbD_and, bits] at bit
    rw [BitVec.getLsbD_ushiftRight, BitVec.getLsbD_ushiftRight]
    by_cases inWord : 32 - p + i < 32
    · simpa [inWord] using bit
    · rw [BitVec.getLsbD_of_ge x _ (by omega), BitVec.getLsbD_of_ge y _ (by omega)]
  · intro same
    apply BitVec.eq_of_getLsbD_eq
    intro i bound
    rw [BitVec.getLsbD_and, BitVec.getLsbD_and, bits]
    by_cases leading : 32 - p ≤ i
    · have bit := congrArg (BitVec.getLsbD · (i - (32 - p))) same
      simp only [BitVec.getLsbD_ushiftRight, Nat.add_sub_cancel' leading] at bit
      rw [bit]
    · simp [leading]

theorem contains?_eq {a n p : Nat} (ha : a < 2 ^ 32) (hn : n < 2 ^ 32) (small : p ≤ 32) :
    contains? a n p = some (decide (a / 2 ^ (32 - p) = n / 2 ^ (32 - p))) := by
  obtain ⟨mask, found, bits⟩ := mask?_spec small
  rw [contains?, found, Option.map_some, Option.some_inj, Bool.eq_iff_iff, beq_iff_eq,
    and_mask_eq_iff bits, ← BitVec.toNat_inj, BitVec.toNat_ushiftRight, BitVec.toNat_ushiftRight,
    BitVec.toNat_ofNat, BitVec.toNat_ofNat, Nat.mod_eq_of_lt ha, Nat.mod_eq_of_lt hn,
    Nat.shiftRight_eq_div_pow, Nat.shiftRight_eq_div_pow, decide_eq_true_iff]

theorem inside?_eq (ip cidr : String) : inside? ip cidr = some (inside ip cidr) := by
  have answers : (inside? ip cidr).isSome := by
    unfold inside?
    split
    · rfl
    · split
      · split
        · next small =>
          obtain ⟨mask, found, _⟩ := mask?_spec small
          rw [contains?, found]
          rfl
        · rfl
      · rfl
  obtain ⟨b, found⟩ := Option.isSome_iff_exists.mp answers
  rw [inside, found, Option.getD_some]

theorem div_pow_eq_of_le {a n k l : Nat} (same : a / 2 ^ k = n / 2 ^ k) (fewer : k ≤ l) :
    a / 2 ^ l = n / 2 ^ l := by
  rw [← Nat.add_sub_of_le fewer, Nat.pow_add, ← Nat.div_div_eq_div_mul, ← Nat.div_div_eq_div_mul, same]

end Masks

section Written

structure Address where
  text : String
  number : Nat
  quad : Quad text.toList number

structure Bits where
  text : String
  number : Nat
  width : Width text.toList number

/-- The network around an address. -/
def Address.network (a : Address) (bits : Bits) : String :=
  a.text ++ "/" ++ bits.text

theorem Address.network_spelled (a : Address) (bits : Bits) :
    Network (a.network bits).toList a.number bits.number := by
  have shape : (a.network bits).toList = a.text.toList ++ '/' :: bits.text.toList := by
    simp [Address.network]
  rw [shape]
  exact .mk a.quad bits.width

theorem Address.number_lt (a : Address) : a.number < 2 ^ 32 := a.quad.lt

theorem inside_network_iff (ip around : Address) (bits : Bits) :
    inside ip.text (around.network bits) = true ↔
      ip.number / 2 ^ (32 - bits.number) = around.number / 2 ^ (32 - bits.number) := by
  rw [inside_eq_true_iff, inside?_eq_contains? ip.quad (.inl (around.network_spelled bits)),
    contains?_eq ip.number_lt around.number_lt bits.width.2, Option.some_inj, decide_eq_true_iff]

/-- Membership is agreement of the leading bits, and no shift on the way to it is too wide. So networks of
one width part the addresses, a narrower network is in the wider ones around it, all addresses are in
the widest, and the last bits of the address that a network is written with are of no account. -/
theorem inside_leading_bits :
    (∀ (ip around : Address) (bits : Bits), inside ip.text (around.network bits) = true ↔
      ip.number / 2 ^ (32 - bits.number) = around.number / 2 ^ (32 - bits.number)) ∧
    (∀ ip cidr : String, inside? ip cidr = some (inside ip cidr)) ∧
    (∀ bits : Bits, Equivalence fun ip around : Address =>
      inside ip.text (around.network bits) = true) ∧
    (∀ (ip around : Address) (longer shorter : Bits), shorter.number ≤ longer.number →
      inside ip.text (around.network longer) = true →
      inside ip.text (around.network shorter) = true) ∧
    (∀ (ip around : Address) (bits : Bits), bits.number = 0 →
      inside ip.text (around.network bits) = true) ∧
    (∀ (ip around other : Address) (bits : Bits),
      around.number / 2 ^ (32 - bits.number) = other.number / 2 ^ (32 - bits.number) →
      inside ip.text (around.network bits) = inside ip.text (other.network bits)) := by
  refine ⟨inside_network_iff, inside?_eq, fun bits => ?_, ?_, ?_, ?_⟩
  · simp only [inside_network_iff]
    exact ⟨fun _ => rfl, Eq.symm, Eq.trans⟩
  · intro ip around longer shorter less
    simp only [inside_network_iff]
    exact fun same => div_pow_eq_of_le same (by omega)
  · intro ip around bits none
    rw [inside_network_iff, none, Nat.div_eq_of_lt ip.number_lt, Nat.div_eq_of_lt around.number_lt]
  · intro ip around other bits same
    rw [Bool.eq_iff_iff, inside_network_iff, inside_network_iff, same]

theorem inside_leading_bits_of_leading_zeros :
    inside "010.001.2.3" "10.0.0.255/08" = true ∧ inside "9.255.255.255" "10.0.0.255/08" = false := by
  let near : Address := ⟨"010.001.2.3", 0x0a010203, address?_eq_some_iff.mp (by decide +kernel)⟩
  let far : Address := ⟨"9.255.255.255", 0x09ffffff, address?_eq_some_iff.mp (by decide +kernel)⟩
  let around : Address := ⟨"10.0.0.255", 0x0a0000ff, address?_eq_some_iff.mp (by decide +kernel)⟩
  let bits : Bits := ⟨"08", 8, ⟨nofun, [0, 8], rfl, rfl⟩, by decide⟩
  have membership := inside_leading_bits.1
  have same : 0x0a010203 / 2 ^ (32 - 8) = 0x0a0000ff / 2 ^ (32 - 8) := by decide
  have apart : ¬0x09ffffff / 2 ^ (32 - 8) = 0x0a0000ff / 2 ^ (32 - 8) := by decide
  constructor
  · exact (membership near around bits).mpr same
  · exact Bool.eq_false_iff.mpr fun holds => apart ((membership far around bits).mp holds)

end Written

end Verdict.Cidr
