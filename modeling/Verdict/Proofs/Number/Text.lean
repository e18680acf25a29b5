import Verdict.Number
import Verdict.Proofs.Binary64.Integers
import Verdict.Proofs.Binary64.Written
import Verdict.Proofs.Numeral.Grammar

set_option autoImplicit false

namespace Verdict

namespace Text

def isNumeric (c : Char) : Bool :=
  c.isDigit || c == '-' || c == '+' || c == '.' || c == 'e'

theorem isNumeric_of_isDigit {c : Char} (digit : c.isDigit) : isNumeric c := by
  simp [isNumeric, digit]

theorem toNat_of_isNumeric {c : Char} (numeric : isNumeric c) :
    43 ≤ c.toNat ∧ c.toNat ≤ 57 ∨ c.toNat = 101 := by
  simp only [isNumeric, Bool.or_eq_true, beq_iff_eq] at numeric
  rcases numeric with (((digit | rfl) | rfl) | rfl) | rfl
  · have bounds : 48 ≤ c.toNat ∧ c.toNat ≤ 57 := Char.isDigit_iff_toNat.mp digit
    omega
  all_goals decide

theorem isBlank_of_isNumeric {c : Char} (numeric : isNumeric c) : isBlank c = false := by
  have bounds := toNat_of_isNumeric numeric
  simp only [isBlank, Bool.or_eq_false_iff, Bool.and_eq_false_iff, beq_eq_false_iff_ne,
    decide_eq_false_iff_not]
  omega

theorem dropWhile_isBlank {text : List Char} (solid : ∀ c ∈ text, isBlank c = false) :
    text.dropWhile isBlank = text := by
  cases text with
  | nil => rfl
  | cons c rest => simp [solid c List.mem_cons_self]

theorem trim_eq_self {text : List Char} (solid : ∀ c ∈ text, isBlank c = false) : trim text = text := by
  have back : ∀ c ∈ text.reverse, isBlank c = false := by simpa using solid
  rw [trim, dropWhile_isBlank solid, trimEnd, dropWhile_isBlank back, List.reverse_reverse]

end Text

open Text

section Characters

theorem Number.isNumeric_intText (i : Int) : ∀ c ∈ intText i, isNumeric c := by
  have digits : ∀ c ∈ Nat.toDigits 10 i.natAbs, isNumeric c :=
    fun c mem => isNumeric_of_isDigit (isDigit_of_mem_toDigits mem)
  unfold intText
  split
  · exact List.forall_mem_cons.mpr ⟨rfl, digits⟩
  · exact digits

namespace Binary64

theorem Decimal.isDigit_figures (d : Decimal) : ∀ c ∈ d.figures.digits, c.isDigit := by
  intro c mem
  obtain ⟨zeros, split, -⟩ := d.exists_figures_zeros
  exact isDigit_of_mem_toDigits (split ▸ List.mem_append_left _ mem)

variable {f : Figures}

theorem isNumeric_positionalText {tail : List Char} (digits : ∀ c ∈ f.digits, isNumeric c)
    (ends : ∀ c ∈ tail, isNumeric c) : ∀ c ∈ positionalText tail f, isNumeric c := by
  have zeros (n : Nat) : ∀ c ∈ List.replicate n '0', isNumeric c := by
    intro c mem
    rw [(List.mem_replicate.mp mem).2]
    rfl
  unfold positionalText
  intro c mem
  split at mem
  · simp only [List.mem_cons, List.mem_append] at mem
    rcases mem with rfl | rfl | mem | mem
    · rfl
    · rfl
    · exact zeros _ c mem
    · exact digits c mem
  · split at mem
    · simp only [List.mem_append] at mem
      rcases mem with (mem | mem) | mem
      · exact digits c mem
      · exact zeros _ c mem
      · exact ends c mem
    · simp only [List.mem_append, List.mem_cons] at mem
      rcases mem with mem | rfl | mem
      · exact digits c (List.mem_of_mem_take mem)
      · rfl
      · exact digits c (List.mem_of_mem_drop mem)

theorem isNumeric_exponentText (digits : ∀ c ∈ f.digits, isNumeric c) :
    ∀ c ∈ exponentText f, isNumeric c := by
  have power : ∀ c ∈ Nat.toDigits 10 (f.point - 1).natAbs, isNumeric c :=
    fun c mem => isNumeric_of_isDigit (isDigit_of_mem_toDigits mem)
  have sign : isNumeric (if f.point - 1 < 0 then '-' else '+') := by
    split <;> rfl
  unfold exponentText
  intro c mem
  simp only [List.mem_append, List.mem_cons] at mem
  rcases mem with mem | rfl | rfl | mem
  · split at mem
    · rw [List.mem_singleton.mp mem]
      rfl
    · next d same => exact digits c (same ▸ mem)
    · next d rest _ same =>
      rw [same] at digits
      simp only [List.mem_cons] at mem digits
      rcases mem with rfl | rfl | mem
      · exact digits c (.inl rfl)
      · rfl
      · exact digits c (.inr mem)
  · rfl
  · exact sign
  · exact power c mem

theorem isNumeric_write {layout : Layout} (ends : ∀ c ∈ layout.integerTail, isNumeric c)
    {x : Binary64} (finite : x.isFinite) : ∀ c ∈ x.write layout, isNumeric c := by
  have magnitude : ∀ c ∈ magnitudeText layout x.rank, isNumeric c := by
    have digits : ∀ c ∈ (shortest layout.tie x.rank).figures.digits, isNumeric c :=
      fun c mem => isNumeric_of_isDigit (Decimal.isDigit_figures _ c mem)
    have finite : x.rank < infiniteRank := of_decide_eq_true finite
    unfold magnitudeText
    rw [if_neg finite.ne]
    split
    · exact List.forall_mem_cons.mpr ⟨rfl, ends⟩
    · dsimp only
      split
      · exact isNumeric_positionalText digits ends
      · exact isNumeric_exponentText digits
  unfold write
  dsimp only
  split
  · exact List.forall_mem_cons.mpr ⟨rfl, magnitude⟩
  · exact magnitude

end Binary64

theorem Number.isNumeric_display (n : Number) : ∀ c ∈ n.display, isNumeric c := by
  cases n with
  | int i _ => exact isNumeric_intText i
  | float x finite => exact Binary64.isNumeric_write (by simp [Binary64.Layout.plain]) finite

theorem Number.isNumeric_write (n : Number) : ∀ c ∈ n.write, isNumeric c := by
  cases n with
  | int i _ => exact isNumeric_intText i
  | float x finite => exact Binary64.isNumeric_write (by simp [Binary64.Layout.document, isNumeric]) finite

end Characters

section Reading

namespace Binary64

def Figures.shown (f : Figures) : Decimal :=
  if 0 < f.point ∧ f.digits.length ≤ f.point.toNat then
    ⟨f.value * tenTo (f.point.toNat - f.digits.length), 0⟩
  else f.decimal

variable {f : Figures} {rank : Nat}

theorem Figures.shown_exponent (f : Figures) :
    f.shown.exponent ≤ 0 ∧ min 0 f.decimal.exponent ≤ f.shown.exponent := by
  unfold shown
  split
  · exact ⟨le_rfl, min_le_left _ _⟩
  · simp only [decimal]
    omega

theorem Figures.shown_hits : f.shown.Hits rank ↔ f.decimal.Hits rank := by
  unfold shown
  split
  · have exponent : (0 : Int) + (f.point.toNat - f.digits.length : Nat) = f.point - f.digits.length := by
      omega
    rw [Decimal.hits_shift, exponent]
    rfl
  · rfl

theorem Figures.shown_digits_pos (proper : f.Proper) : 0 < f.shown.digits := by
  unfold shown
  split
  · exact Nat.mul_pos proper.value_pos (tenTo_pos _)
  · exact proper.value_pos

end Binary64

namespace Numeral

open Binary64 (Figures positionalText Layout shortest infiniteRank magnitudeText)

theorem spells_ten_of_digits {text : List Char} {n : Nat} (some : text ≠ [])
    (digits : ∀ c ∈ text, c.isDigit) (value : Nat.ofDigitChars 10 text 0 = n) : Spells 10 text n := by
  simp only [Nat.ofDigitChars, Nat.mul_comm 10] at value
  exact spells_ten_iff.mpr ⟨some, digits, value⟩

theorem mantissa_positionalText {f : Figures} (proper : f.Proper) :
    Mantissa (positionalText [] f) f.shown.digits (-f.shown.exponent).toNat := by
  have zeros (n : Nat) : ∀ c ∈ List.replicate n '0', c.isDigit := by
    intro c mem
    rw [(List.mem_replicate.mp mem).2]
    rfl
  have some := proper.digits_ne_nil
  unfold positionalText Figures.shown
  by_cases small : f.point ≤ 0
  · rw [if_pos small, if_neg (by omega)]
    have spelled : Spells 10 (['0'] ++ (List.replicate (-f.point).toNat '0' ++ f.digits)) f.value := by
      refine spells_ten_of_digits (by simp) ?_ ?_
      · exact List.forall_mem_append.mpr
          ⟨by simp, List.forall_mem_append.mpr ⟨zeros _, proper.digits⟩⟩
      · simp [Nat.ofDigitChars_append, Nat.ofDigitChars_replicate_zero, Nat.ofDigitChars_cons, Figures.value]
    have mantissa := Mantissa.pointed spelled
    rw [List.length_append, List.length_replicate] at mantissa
    have places : (-f.decimal.exponent).toNat = (-f.point).toNat + f.digits.length := by
      simp only [Figures.decimal]
      omega
    rw [places]
    exact mantissa
  · rw [if_neg small]
    by_cases whole : f.digits.length ≤ f.point.toNat
    · rw [if_pos whole, if_pos ⟨by omega, whole⟩, List.append_nil]
      refine .whole (spells_ten_of_digits (by simp [some]) ?_ ?_)
      · exact List.forall_mem_append.mpr ⟨proper.digits, zeros _⟩
      · rw [Nat.ofDigitChars_append, Nat.ofDigitChars_replicate_zero, Nat.mul_comm]
        rfl
    · rw [if_neg whole, if_neg fun h => whole h.2]
      have spelled : Spells 10 (f.digits.take f.point.toNat ++ f.digits.drop f.point.toNat) f.value := by
        rw [List.take_append_drop]
        exact spells_ten_of_digits some proper.digits rfl
      have mantissa := Mantissa.pointed spelled
      rw [List.length_drop] at mantissa
      have places : (-f.decimal.exponent).toNat = f.digits.length - f.point.toNat := by
        simp only [Figures.decimal]
        omega
      rw [places]
      exact mantissa

theorem sign_append (negative : Bool) (text : List Char) :
    ∃ sign, Sign sign negative ∧ (if negative then '-' :: text else text) = sign ++ text := by
  cases negative with
  | true => exact ⟨['-'], .minus, rfl⟩
  | false => exact ⟨[], .none, rfl⟩

theorem Mantissa.decimal {mantissa : List Char} {n places : Nat} (h : Mantissa mantissa n places)
    {x : Binary64} (value : .ofDecimal x.negative n (-places) = x) :
    Decimal (if x.negative then '-' :: mantissa else mantissa) x := by
  obtain ⟨sign, signed, text⟩ := sign_append x.negative mantissa
  have decimal := Decimal.mk signed h .none
  rw [List.append_nil, zero_sub, value] at decimal
  rw [text]
  exact decimal

theorem magnitudeText_plain {rank : Nat} (positive : 0 < rank) (finite : rank < infiniteRank) :
    magnitudeText .plain rank = positionalText [] (shortest .up rank).figures := by
  unfold magnitudeText
  rw [if_neg positive.ne', if_neg finite.ne]
  rfl

theorem exists_mantissa_magnitudeText {rank : Nat} (finite : rank < infiniteRank) (negative : Bool) :
    ∃ n places : Nat, Mantissa (magnitudeText .plain rank) n places ∧
      Binary64.ofDecimal negative n (-places) = ⟨negative, rank, finite.le⟩ := by
  rcases Nat.eq_zero_or_pos rank with rfl | positive
  · have zero : Spells 10 ['0'] 0 := spells_ten_of_digits (List.cons_ne_nil _ _) (by simp) rfl
    exact ⟨0, 0, .whole zero, rfl⟩
  · obtain ⟨proper, -, -, hits⟩ := Binary64.shortest_figures .up positive finite
    obtain ⟨places, -, most, exponent, -⟩ := Binary64.shortest_spec .up positive finite
    obtain ⟨zeros, -, -, moved⟩ := (shortest .up rank).exists_figures_zeros
    have scale := Binary64.decimalScale_bounds positive finite
    rw [magnitudeText_plain positive finite]
    generalize (shortest .up rank).figures = f at *
    have range := f.shown_exponent
    have read := Binary64.ofDecimal_of_hits (Figures.shown_hits.mpr hits) finite
      (Figures.shown_digits_pos proper).ne' (by omega) (by omega) negative
    have places : -((-f.shown.exponent).toNat : Int) = f.shown.exponent := by
      omega
    rw [← places] at read
    exact ⟨_, _, mantissa_positionalText proper, read⟩

theorem decimal_write {x : Binary64} (finite : x.isFinite) : Decimal (x.write .plain) x := by
  obtain ⟨n, places, mantissa, value⟩ :=
    exists_mantissa_magnitudeText (of_decide_eq_true finite) x.negative
  exact mantissa.decimal value

theorem decimal_intText (i : Int) : Decimal (Number.intText i) (.ofInt i) := by
  have spelled : Spells 10 (Nat.toDigits 10 i.natAbs) i.natAbs :=
    spells_ten_of_digits Nat.toDigits_ne_nil (fun c => Text.isDigit_of_mem_toDigits)
      Nat.ofDigitChars_ten_toDigits
  have sign : (Binary64.ofInt i).negative = decide (i < 0) := rfl
  have value : .ofDecimal (Binary64.ofInt i).negative i.natAbs (-(0 : Nat)) = Binary64.ofInt i := by
    unfold Binary64.ofDecimal
    dsimp only
    split
    · next zero =>
      obtain rfl := Int.natAbs_eq_zero.mp zero
      decide +kernel
    · rw [if_neg (by decide), if_neg (by omega), sign]
      exact congrArg (Binary64.ofRatio (i < 0) · 1) (Nat.mul_one i.natAbs)
  have decimal := (Mantissa.whole spelled).decimal value
  simp only [sign, decide_eq_true_eq] at decimal
  exact decimal

theorem decimal_display (n : Number) : Decimal n.display n.toBinary64 := by
  cases n with
  | int i _ => exact decimal_intText i
  | float x finite => exact decimal_write finite

theorem readTrimmed?_display (n : Number) : readTrimmed? (Text.trim n.display) = some n.toBinary64 := by
  rw [Text.trim_eq_self fun c mem => isBlank_of_isNumeric (n.isNumeric_display c mem)]
  exact readTrimmed?_eq_some_iff.mpr (.inl (.decimal (decimal_display n)))

end Numeral

end Reading

end Verdict
