import Verdict.Proofs.Document.Significand

set_option autoImplicit false

namespace Verdict.Document

open Binary64 (ofNat infiniteRank)
open Numeral (Sign splitSign)

section Steps

theorem all_takeWhile {p : Char → Bool} (text : List Char) : ∀ c ∈ text.takeWhile p, p c := by
  intro c mem
  exact List.all_eq_true.mp (List.all_takeWhile (l := text) (p := p)) c mem

theorem head?_dropWhile {p : Char → Bool} (text : List Char) :
    ∀ c ∈ (text.dropWhile p).head?, p c = false := by
  intro c mem
  have stop := List.head?_dropWhile_not p text
  rwa [Option.mem_def.mp mem] at stop

theorem map_eq_ok {ε α β : Type} {x : Except ε α} {f : α → β} {b : β}
    (h : x.map f = .ok b) : ∃ a, x = .ok a ∧ f a = b := by
  cases x with
  | error fault => cases h
  | ok a => exact ⟨a, rfl, Except.ok.inj h⟩

def exponentNumber (negative : Bool) (significand : Nat) (start : Int) (down : Bool)
    (digits : List Char) : Except ReadFault Number :=
  let power := Numeral.decimalValue digits
  if power < 0x80000000 then
    scaled negative significand (if down then start - power else start + power)
  else if significand ≠ 0 ∧ !down then .error .malformed
  else scaled negative 0 0

theorem readExponent_eq (negative : Bool) (significand : Nat) (start : Int) (text : List Char) :
    readExponent negative significand start text =
      let digits := (splitSign text).2.takeWhile Char.isDigit
      let rest := (splitSign text).2.dropWhile Char.isDigit
      if digits.isEmpty then .error (if rest.isEmpty then .truncated else .malformed)
      else (exponentNumber negative significand start (splitSign text).1 digits).map (·, rest) := by
  unfold readExponent exponentNumber
  split
  next down body sign =>
    have signed : splitSign text = (down, body) := by
      rw [← sign]
      unfold splitSign
      split
      · rfl
      · rfl
      · next minus plus =>
        split
        · exact absurd rfl (plus _)
        · exact absurd rfl (minus _)
        · rfl
    simp only [signed]
    split
    · rfl
    · change (if Numeral.decimalValue _ < _ then _ else _) = _
      split
      · rfl
      · split
        · rfl
        · rfl

def readTail (negative : Bool) (digits text : List Char) : Reading Number :=
  let whole := takeDigits 0 digits
  match text with
  | '.' :: rest => readFraction negative whole rest
  | rest =>
      let plain :=
        if whole.dropped = 0 then wholeNumber negative whole.value
        else scaled negative whole.value whole.dropped
      readPower negative whole.value whole.dropped plain rest

theorem readMagnitude_eq (negative : Bool) {text : List Char}
    (some : text.takeWhile Char.isDigit ≠ [])
    (plain : ∀ c more, text.takeWhile Char.isDigit ≠ '0' :: c :: more) :
    readMagnitude negative text =
      readTail negative (text.takeWhile Char.isDigit) (text.dropWhile Char.isDigit) := by
  unfold readMagnitude
  split
  · next none => exact absurd none some
  · next zero => exact absurd zero (plain _ _)
  · rfl

end Steps

section Complete

variable {negative : Bool} {significand : Nat} {start : Int} {x : Binary64} {rest : List Char}

def signed (negative : Bool) (x : Binary64) (finite : x.isFinite = true) : Number :=
  .float ⟨negative, x.rank, x.rank_le⟩ finite

theorem Digits.first {digits : List Char} (h : Digits digits) :
    ∃ d more, digits = d :: more ∧ d.isDigit := by
  obtain ⟨some, all⟩ := h
  cases digits with
  | nil => exact absurd rfl some
  | cons d more => exact ⟨d, more, rfl, all d List.mem_cons_self⟩

theorem Scaled.exponentNumber {digits : List Char} {n : Nat} {down : Bool}
    (h : Scaled significand start (if down then -(n : Int) else n) x)
    (fits : significand < 0x10000000000000000) (value : Numeral.decimalValue digits = n)
    (finite : x.isFinite = true) :
    exponentNumber negative significand start down digits = .ok (signed negative x finite) := by
  have natural := h.finite fits
  have size : (if down then -(n : Int) else n).natAbs = n := by cases down <;> simp
  have power : (if down then start - n else start + n) = start + if down then -(n : Int) else n := by
    cases down <;> simp [Int.sub_eq_add_neg]
  unfold Document.exponentNumber
  rw [Scaled, size] at h
  simp only [value]
  by_cases small : n < 0x80000000
  · rw [if_pos small] at h
    rw [if_pos small, power]
    exact scaled_of_scale? h natural.1 natural.2 negative
  · -- too large a power leaves nothing of the number, unless it is refused
    rw [if_neg small] at h
    obtain ⟨zero, rfl⟩ := h
    have accepted : ¬(significand ≠ 0 ∧ (!down) = true) := by
      rintro ⟨positive, up⟩
      rw [Bool.not_eq_true'] at up
      simp only [up, Bool.false_eq_true, if_false] at zero
      omega
    rw [if_neg small, if_neg accepted]
    exact scaled_of_scale? (y := .zero) (by decide +kernel) rfl (by decide) negative

theorem Power.stop {text : List Char} {power : Option Int} (h : Power text power)
    (ends : NumberEnds rest) : ∀ c ∈ (text ++ rest).head?, c.isDigit = false ∧ c ≠ '.' := by
  cases h with
  | absent => exact fun c mem => ⟨(ends c mem).1, (ends c mem).2.1⟩
  | mark marked _ _ =>
    rintro c ⟨⟩
    rcases marked with rfl | rfl <;> decide

theorem Power.readPower {text : List Char} {power : Option Int} (h : Power text power)
    (ends : NumberEnds rest) (value : Scaled significand start (power.getD 0) x)
    (fits : significand < 0x10000000000000000) (finite : x.isFinite = true)
    {plain : Except ReadFault Number} (plainly : power = none → plain = .ok (signed negative x finite)) :
    readPower negative significand start plain (text ++ rest) =
      .ok (signed negative x finite, rest) := by
  cases h with
  | absent =>
    rw [List.nil_append, ends.readPower_eq, plainly rfl]
    rfl
  | @mark mark sign digits down n marked sign spelled =>
    obtain ⟨some, all, decimal⟩ := Numeral.spells_ten_iff.mp spelled
    have isMark : isExponentMark mark := by simpa [isExponentMark] using marked
    rw [List.cons_append, Document.readPower, if_pos isMark, readExponent_eq, List.append_assoc,
      Numeral.splitSign_append sign (spelled.unsigned rest)]
    simp only [Text.takeWhile_append_of_stop all ends.stop, Text.dropWhile_append_of_stop all ends.stop,
      List.isEmpty_iff, some, if_false, value.exponentNumber fits decimal finite]
    rfl

theorem Parts.whole_integer {p : Parts} (h : p.IsInteger) :
    p.digits < 0x10000000000000000 ∧ wholeNumber p.negative p.digits = .ok (.int p.integer h.2.2.1) := by
  obtain ⟨-, -, fits, notMinusZero⟩ := h
  have sign : decide (p.integer < 0) = p.negative ∧ p.integer.natAbs = p.digits := by
    unfold Parts.integer at fits ⊢
    cases negative : p.negative
    · simp
    · have positive : p.digits ≠ 0 := fun zero => notMinusZero ⟨negative, zero⟩
      simp
      omega
  have read := wholeNumber_natAbs fits
  rw [sign.1, sign.2] at read
  exact ⟨by omega, read⟩

theorem readTail_plain {digits : List Char} (negative : Bool) (ends : NumberEnds rest) :
    readTail negative digits rest =
      (if (takeDigits 0 digits).dropped = 0 then wholeNumber negative (takeDigits 0 digits).value
        else scaled negative (takeDigits 0 digits).value (takeDigits 0 digits).dropped).map
          (·, rest) := by
  unfold readTail
  dsimp only
  split
  · exact absurd rfl (ends '.' rfl).2.1
  · rw [ends.readPower_eq]

theorem Parts.readTail_integer {p : Parts} (h : p.IsInteger) (ends : NumberEnds rest) :
    readTail p.negative p.whole rest = .ok (.int p.integer h.2.2.1, rest) := by
  obtain ⟨fits, read⟩ := p.whole_integer h
  have whole : takeDigits 0 p.whole = ⟨p.digits, p.whole.length, 0⟩ := by
    unfold Parts.digits at fits ⊢
    rw [h.1, List.append_nil] at fits ⊢
    exact takeDigits_eq fits
  rw [readTail_plain p.negative ends, whole, if_pos rfl, read]
  rfl

theorem Parts.wholeNumber_eq_scaled {p : Parts} (none : p.fraction = [] ∧ p.power = none)
    (fits : p.digits < 0x10000000000000000) (other : ¬p.IsInteger) :
    wholeNumber p.negative p.digits = scaled p.negative p.digits 0 := by
  unfold Parts.IsInteger Parts.integer at other
  cases negative : p.negative
  · simp [none, negative] at other
    omega
  · have outside : ¬(0 < p.digits ∧ p.digits ≤ 0x8000000000000000) := by
      rintro ⟨positive, bounded⟩
      refine other ⟨none.1, none.2, ?_, fun zero => positive.ne' zero.2⟩
      rw [negative, if_pos rfl]
      omega
    rw [wholeNumber, if_neg (by decide), if_neg outside]

theorem Parts.plain_eq_scaled {p : Parts} {s : Significand} (none : p.fraction = [] ∧ p.power = none)
    (whole : Leading 0 p.whole s) (other : ¬p.IsInteger) :
    (if s.dropped = 0 then wholeNumber p.negative s.value
      else scaled p.negative s.value s.dropped) = scaled p.negative s.value s.dropped := by
  split
  · next all =>
    have number : s.value = p.digits := by
      rw [whole.value_eq all, Parts.digits, none.1, List.append_nil]
    rw [all, number, Parts.wholeNumber_eq_scaled none (number ▸ whole.fits) other]
    rfl
  · rfl

theorem Parts.readTail_float {p : Parts} {point exponent : List Char}
    (fraction : Fraction point p.fraction) (power : Power exponent p.power) (other : ¬p.IsInteger)
    (rounds : p.Rounds x) (finite : x.isFinite = true) (ends : NumberEnds rest) :
    readTail p.negative p.whole (point ++ (exponent ++ rest)) =
      .ok (signed p.negative x finite, rest) := by
  obtain ⟨s, t, whole, more, value⟩ := rounds
  have fits := more.fits
  have natural := value.finite fits
  have plainly (none : p.power = none) :
      scaled p.negative t.value (s.dropped - t.taken) = .ok (signed p.negative x finite) := by
    rw [Scaled, Parts.exponent, none, Option.getD_none, if_pos (by decide), Int.add_zero] at value
    exact scaled_of_scale? value natural.1 natural.2 p.negative
  obtain ⟨negative, digits, fraction, places⟩ := p
  unfold readTail
  simp only at fraction power more whole ⊢
  rw [whole.takeDigits]
  cases fraction with
  | @point digits some =>
    have stop : ∀ c ∈ (exponent ++ rest).head?, c.isDigit = false := fun c mem => (power.stop ends c mem).1
    simp only [List.cons_append, readFraction, Text.takeWhile_append_of_stop some.2 stop,
      Text.dropWhile_append_of_stop some.2 stop, List.isEmpty_iff, some.1, if_false, more.takeDigits]
    exact power.readPower ends value fits finite plainly
  | absent =>
    -- without a fraction the significand is that of the whole, which may still fit as an integer
    have noMore := more.takeDigits
    rw [takeDigits] at noMore
    subst noMore
    rw [List.nil_append]
    split
    · next point => exact absurd rfl (power.stop ends '.' (by rw [point]; rfl)).2
    · refine power.readPower ends ?_ fits finite ?_
      · simpa [Parts.exponent] using value
      · intro none
        rw [Parts.plain_eq_scaled (p := ⟨negative, digits, [], places⟩) ⟨rfl, none⟩ whole other]
        simpa using plainly none

theorem SpellsMagnitude.readMagnitude {text : List Char} {n : Number}
    (h : SpellsMagnitude negative text n) (ends : NumberEnds rest) :
    readMagnitude negative (text ++ rest) = .ok (n, rest) := by
  have written {p : Parts} (h : Written text p)
      (tail : ∀ point exponent, Fraction point p.fraction → Power exponent p.power →
        readTail p.negative p.whole (point ++ (exponent ++ rest)) = .ok (n, rest)) :
      Document.readMagnitude p.negative (text ++ rest) = .ok (n, rest) := by
    cases h with
    | @mk negative whole point fraction exponent power digits noZero frac pow =>
      have stop : ∀ c ∈ (point ++ (exponent ++ rest)).head?, c.isDigit = false := by
        cases frac with
        | absent => exact fun c mem => (pow.stop ends c mem).1
        | point _ =>
          rintro c ⟨⟩
          rfl
      have taken := Text.takeWhile_append_of_stop digits.2 stop
      rw [List.append_assoc, List.append_assoc,
        readMagnitude_eq negative (by rw [taken]; exact digits.1) (by rwa [taken]), taken,
        Text.dropWhile_append_of_stop digits.2 stop]
      exact tail point exponent frac pow
  cases h with
  | int text integer =>
    refine written text fun point exponent fraction power => ?_
    rw [integer.1] at fraction
    rw [integer.2.1] at power
    cases power
    cases fraction with
    | absent => exact Parts.readTail_integer integer ends
    | point some => exact absurd rfl some.1
  | float finite text other rounds =>
    exact written text fun point exponent fraction power =>
      Parts.readTail_float fraction power other rounds finite ends

theorem SpellsMagnitude.first {text : List Char} {n : Number} (h : SpellsMagnitude negative text n) :
    ∃ d more, text = d :: more ∧ d.isDigit := by
  have written {p : Parts} (h : Written text p) : ∃ d more, text = d :: more ∧ d.isDigit := by
    cases h with
    | @mk _ _ point _ exponent _ digits _ _ _ =>
      obtain ⟨d, more, rfl, digit⟩ := digits.first
      exact ⟨d, more ++ (point ++ exponent), rfl, digit⟩
  cases h with
  | int text _ => exact written text
  | float _ text _ _ => exact written text

end Complete

section Sound

variable {negative : Bool} {significand : Nat} {start : Int} {text rest : List Char} {n : Number}

theorem scaled_eq_ok {exponent : Int} (fits : significand < 0x10000000000000000)
    (h : scaled negative significand exponent = .ok n) :
    ∃ x finite, scale? 3 (ofNat significand) exponent = some x ∧ n = signed negative x finite := by
  cases found : scale? 3 (ofNat significand) exponent with
  | none => simp [scaled, found] at h
  | some x =>
    obtain ⟨natural, finite⟩ := scale?_finite found rfl (ofNat_finite fits)
    rw [scaled_of_scale? found natural finite] at h
    exact ⟨x, decide_eq_true finite, rfl, (Except.ok.inj h).symm⟩

theorem exponentNumber_eq_ok {down : Bool} {digits : List Char}
    (fits : significand < 0x10000000000000000)
    (h : exponentNumber negative significand start down digits = .ok n) :
    ∃ x finite, Scaled significand start
      (if down then -(Numeral.decimalValue digits : Int) else Numeral.decimalValue digits) x ∧
      n = signed negative x finite := by
  obtain ⟨power, value⟩ : ∃ power, Numeral.decimalValue digits = power := ⟨_, rfl⟩
  have size : (if down then -(power : Int) else power).natAbs = power := by cases down <;> simp
  simp only [exponentNumber, value] at h
  simp only [value, Scaled, size]
  by_cases small : power < 0x80000000
  · have total : (if down then start - power else start + power) =
        start + if down then -(power : Int) else power := by
      cases down <;> simp [Int.sub_eq_add_neg]
    rw [if_pos small, total] at h
    simp only [small, if_true]
    exact scaled_eq_ok fits h
  · rw [if_neg small] at h
    simp only [small, if_false]
    split at h
    · cases h
    · next accepted =>
      obtain ⟨x, finite, found, same⟩ := scaled_eq_ok (by decide) h
      have zero : scale? 3 (ofNat 0) 0 = some .zero := by decide +kernel
      rw [zero, Option.some_inj] at found
      refine ⟨x, finite, ⟨?_, found.symm⟩, same⟩
      cases down
      · exact .inl (by simpa using accepted)
      · exact .inr (by simp; omega)

theorem readPower_eq_ok {plain : Except ReadFault Number} (fits : significand < 0x10000000000000000)
    (h : readPower negative significand start plain text = .ok (n, rest)) :
    ∃ exponent power, text = exponent ++ rest ∧ Power exponent power ∧
      (power = none ∧ plain = .ok n ∨
        power ≠ none ∧ ∃ x finite, Scaled significand start (power.getD 0) x ∧
          n = signed negative x finite) := by
  have absent (same : plain.map (·, text) = .ok (n, rest)) : text = [] ++ rest ∧ plain = .ok n := by
    obtain ⟨_, read, same⟩ := map_eq_ok same
    cases same
    exact ⟨rfl, read⟩
  unfold readPower at h
  split at h
  · next c tail =>
    split at h
    · next mark =>
      rw [readExponent_eq] at h
      obtain ⟨sign, signed, parts⟩ := Numeral.splitSign_spec tail
      generalize splitSign tail = split at h signed parts
      obtain ⟨down, body⟩ := split
      simp only [List.isEmpty_iff] at h signed parts
      split at h
      · cases h
      · next some =>
        obtain ⟨_, read, same⟩ := map_eq_ok h
        cases same
        have digits : Digits (body.takeWhile Char.isDigit) := ⟨some, all_takeWhile body⟩
        have marked : c = 'e' ∨ c = 'E' := by simpa [isExponentMark] using mark
        refine ⟨c :: (sign ++ body.takeWhile Char.isDigit), _, ?_,
          .mark marked signed (Numeral.spells_ten_iff.mpr ⟨digits.1, digits.2, rfl⟩),
          .inr ⟨nofun, exponentNumber_eq_ok fits read⟩⟩
        rw [List.cons_append, List.append_assoc, List.takeWhile_append_dropWhile, parts]
    · obtain ⟨split, read⟩ := absent h
      exact ⟨[], none, split, .absent, .inl ⟨rfl, read⟩⟩
  · obtain ⟨split, read⟩ := absent h
    exact ⟨[], none, split, .absent, .inl ⟨rfl, read⟩⟩

theorem Parts.plain_eq_ok {p : Parts} {s : Significand} {body : List Char}
    (none : p.fraction = [] ∧ p.power = none) (whole : Leading 0 p.whole s) (written : Written body p)
    (h : (if s.dropped = 0 then wholeNumber p.negative s.value
      else scaled p.negative s.value s.dropped) = .ok n) :
    SpellsMagnitude p.negative body n := by
  by_cases integer : p.IsInteger
  · obtain ⟨fits, read⟩ := p.whole_integer integer
    have number : p.digits = Nat.ofDigitChars 10 p.whole 0 := by rw [Parts.digits, none.1, List.append_nil]
    have all := takeDigits_eq (number ▸ fits)
    rw [whole.takeDigits] at all
    subst all
    rw [if_pos rfl, ← number, read] at h
    cases h
    exact .int written integer
  · rw [Parts.plain_eq_scaled none whole integer] at h
    obtain ⟨x, finite, found, rfl⟩ := scaled_eq_ok whole.fits h
    refine .float finite written integer ⟨s, ⟨s.value, 0, 0⟩, whole, ?_, ?_⟩
    · rw [none.1]
      exact ⟨[], [], rfl, rfl, whole.fits, nofun⟩
    · rw [Scaled, Parts.exponent, none.2]
      simpa using found

theorem readFraction_eq_ok {whole : List Char} {s : Significand} (digits : Digits whole)
    (noZero : ∀ c more, whole ≠ '0' :: c :: more) (leading : Leading 0 whole s)
    (h : readFraction negative s text = .ok (n, rest)) :
    ∃ tail, text = tail ++ rest ∧ SpellsMagnitude negative (whole ++ '.' :: tail) n := by
  unfold readFraction at h
  simp only [List.isEmpty_iff] at h
  split at h
  · cases h
  · next some =>
    have places : Digits (text.takeWhile Char.isDigit) := ⟨some, all_takeWhile text⟩
    have more := leading_takeDigits leading.fits (text.takeWhile Char.isDigit)
    obtain ⟨exponent, power, split, powered, number⟩ := readPower_eq_ok more.fits h
    refine ⟨text.takeWhile Char.isDigit ++ exponent, ?_, ?_⟩
    · rw [List.append_assoc, ← split, List.takeWhile_append_dropWhile]
    · have written : Written _ ⟨negative, _, _, power⟩ := .mk digits noZero (.point places) powered
      obtain ⟨x, finite, scaled, rfl⟩ : ∃ x finite, Scaled _ _ (power.getD 0) x ∧
          n = signed negative x finite := by
        rcases number with ⟨rfl, plain⟩ | ⟨-, found⟩
        · obtain ⟨x, finite, found, same⟩ := scaled_eq_ok more.fits plain
          exact ⟨x, finite, by simpa [Scaled] using found, same⟩
        · exact found
      exact .float finite written (fun integer => some integer.1) ⟨_, _, leading, more, scaled⟩

theorem readMagnitude_eq_ok (h : readMagnitude negative text = .ok (n, rest)) :
    ∃ body, text = body ++ rest ∧ SpellsMagnitude negative body n := by
  have some : text.takeWhile Char.isDigit ≠ [] := by
    intro none
    simp [readMagnitude, none] at h
  have noZero (c : Char) (more : List Char) : text.takeWhile Char.isDigit ≠ '0' :: c :: more := by
    intro zero
    simp [readMagnitude, zero] at h
  rw [readMagnitude_eq negative some noZero] at h
  have digits : Digits (text.takeWhile Char.isDigit) := ⟨some, all_takeWhile text⟩
  have parts := List.takeWhile_append_dropWhile (p := Char.isDigit) (l := text)
  generalize text.takeWhile Char.isDigit = whole at *
  generalize text.dropWhile Char.isDigit = tail at *
  have leading := leading_takeDigits (by decide : 0 < 0x10000000000000000) whole
  unfold readTail at h
  dsimp only at h
  split at h
  · next tail =>
    obtain ⟨tail, rfl, spelled⟩ := readFraction_eq_ok digits noZero leading h
    exact ⟨whole ++ '.' :: tail, by rw [← parts, List.append_assoc, List.cons_append], spelled⟩
  · obtain ⟨exponent, power, split, powered, number⟩ := readPower_eq_ok leading.fits h
    have written : Written (whole ++ ([] ++ exponent)) ⟨negative, whole, [], power⟩ :=
      .mk digits noZero .absent powered
    refine ⟨whole ++ ([] ++ exponent), ?_, ?_⟩
    · rw [← parts, split, List.nil_append, List.append_assoc]
    · rcases number with ⟨rfl, plain⟩ | ⟨present, x, finite, scaled, rfl⟩
      · exact Parts.plain_eq_ok ⟨rfl, rfl⟩ leading written plain
      · refine .float finite written (fun integer => present integer.2.1)
          ⟨_, ⟨_, 0, 0⟩, leading, ⟨[], [], rfl, rfl, leading.fits, nofun⟩, ?_⟩
        simpa [Parts.exponent] using scaled

end Sound

end Verdict.Document
