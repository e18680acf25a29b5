import Verdict.Proofs.Document.Float
import Verdict.Proofs.Document.Scaling
import Verdict.Proofs.Rule.RoundTrip

set_option autoImplicit false

namespace Verdict

open Binary64

theorem Binary64.eq_of_parts {x y : Binary64} (negative : x.negative = y.negative)
    (rank : x.rank = y.rank) : x = y := by
  cases x
  cases y
  cases negative
  cases rank
  rfl

namespace Document

theorem exists_readMagnitude {rank : Nat} (finite : rank < infiniteRank) (negative : Bool) :
    ∃ y : Binary64, ∃ there : y.isFinite = true, y.negative = negative ∧
      scale? 3 (ofNat (written rank).digits) (written rank).exponent = some ⟨false, y.rank, y.rank_le⟩ ∧
      ∀ rest, NumberEnds rest →
        readMagnitude negative (magnitudeText .document rank ++ rest) = .ok (.float y there, rest) := by
  obtain ⟨y, found, natural, less⟩ := scale?_written finite
  refine ⟨⟨negative, y.rank, y.rank_le⟩, decide_eq_true less, rfl, ?_, fun rest ends => ?_⟩
  · rw [found, ← natural]
  · rw [readMagnitude_document finite negative ends, scaled_of_scale? found natural less]
    rfl

theorem magnitudeText_eq_cons {rank : Nat} (finite : rank < infiniteRank) :
    ∃ c tail, magnitudeText .document rank = c :: tail ∧ c.isDigit := by
  obtain ⟨y, there, -, -, read⟩ := exists_readMagnitude finite false
  have read := read [] nofun
  rw [List.append_nil] at read
  cases text : magnitudeText .document rank with
  | nil =>
    rw [text] at read
    cases read
  | cons c tail =>
    refine ⟨c, tail, rfl, ?_⟩
    by_contra other
    simp [text, readMagnitude, other] at read

theorem exists_readValue_float {x : Binary64} (finite : x.isFinite = true) :
    ∃ y : Binary64, ∃ there : y.isFinite = true, y.negative = x.negative ∧
      scale? 3 (ofNat (written x.rank).digits) (written x.rank).exponent =
        some ⟨false, y.rank, y.rank_le⟩ ∧
      ∀ fuel depth rest, NumberEnds rest →
        readValue (fuel + 1) depth (x.write .document ++ rest) = .ok (.num (.float y there), rest) := by
  have less : x.rank < infiniteRank := of_decide_eq_true finite
  obtain ⟨y, there, sign, found, read⟩ := exists_readMagnitude less x.negative
  refine ⟨y, there, sign, found, fun fuel depth rest ends => ?_⟩
  have read := read rest ends
  unfold Binary64.write
  cases negative : x.negative with
  | true =>
    rw [negative] at read
    simp only [if_true, List.cons_append]
    rw [readValue, skipBlanks_cons (by decide)]
    simp only [read, Except.map]
  | false =>
    obtain ⟨c, tail, digits, digit⟩ := magnitudeText_eq_cons less
    rw [negative] at read
    rw [digits, List.cons_append] at read
    simp only [Bool.false_eq_true, if_false, digits, List.cons_append]
    rw [readValue_digit digit, read]
    rfl

end Document

theorem Node.float_of_finite {x : Binary64} (finite : x.isFinite = true) :
    Node.float x = .literal .float (.num (.float x finite)) := by
  simp only [Node.float, Number.ofBinary64?, finite, dif_pos]

namespace Rule

open Document

theorem readRootMembers_float {value : List Char} {d : Datum} (fuel depth : Nat) (rest : List Char)
    (read : readValue (fuel + 1) depth (value ++ '\x7d' :: rest) = .ok (d, '\x7d' :: rest)) :
    readRootMembers (fuel + 4) depth false []
        (Text.joinWith [','] [member Node.tagKey (quote "literal".toList),
          member "type" (quote "float".toList), member "value" value] ++ '\x7d' :: rest) =
      .ok ([(Node.tagKey, .str "literal"), ("type", .str "float"), ("value", d)], rest) := by
  rw [joinWith_comma, readRootMembers, readRootKey_member rfl]
  simp only [readRootValue, if_true, readTag_quote, skipBlanks_cons (c := ',') (by decide)]
  rw [joinWith_comma, readRootMembers, readRootKey_member rfl]
  simp only [readRootValue, (by decide : "type" ≠ Node.tagKey), if_false, readValue_string,
    skipBlanks_cons (c := ',') (by decide)]
  simp only [Text.joinWith]
  rw [readRootMembers, readRootKey_member rfl]
  simp only [readRootValue, (by decide : "value" ≠ Node.tagKey), if_false, read,
    skipBlanks_cons (c := '\x7d') (by decide)]
  rfl

theorem readRoot_float {n m : Number}
    (read : ∀ fuel depth rest, NumberEnds rest →
      readValue (fuel + 1) depth (n.write ++ rest) = .ok (.num m, rest)) :
    readRoot (write (Node.literal .float (.num n)).encode) =
      .ok ((Node.literal .float (.num m)).encode, []) := by
  refine readRoot_object (List.cons_ne_nil _ _) ?_
  obtain ⟨fuel, enough⟩ : ∃ k, (write (Node.literal .float (.num n)).encode).length + 1 = k + 4 :=
    ⟨_, rfl⟩
  change readRootMembers ((write (Node.literal .float (.num n)).encode).length + 1) _ _ _ _ = _
  rw [enough]
  exact readRootMembers_float fuel _ [] (read fuel _ _ (.cons (by decide) _))

/-- A float literal always decodes: to the number that its text is scaled to, with its sign. -/
theorem ofJson_float {x : Binary64} (finite : x.isFinite = true) :
    ∃ y : Binary64, y.isFinite = true ∧ y.negative = x.negative ∧
      scale? 3 (ofNat (written x.rank).digits) (written x.rank).exponent =
        some ⟨false, y.rank, y.rank_le⟩ ∧
      ofJson (ofNode (.float x)).toJson = .ok (ofNode (.float y)) := by
  obtain ⟨y, there, sign, found, read⟩ := exists_readValue_float finite
  have root := readRoot_float (n := .float x finite) (m := .float y there) read
  refine ⟨y, there, sign, found, ?_⟩
  have text : (ofNode (.float x)).toJson.toList =
      write (Node.literal .float (.num (.float x finite))).encode := by
    rw [Node.float_of_finite finite]
    exact String.toList_ofList
  rw [Node.float_of_finite there]
  simp [ofJson, text, ofText, root, ofDatum, Node.decode_literal, Datum.canonical,
    Except.map, isEnd, skipBlanks]

theorem ofJson_float_of_exact {x : Binary64} (finite : x.isFinite = true)
    (short : (written x.rank).digits < 2 * binade) (near : (written x.rank).exponent.natAbs ≤ 22) :
    ofJson (ofNode (.float x)).toJson = .ok (ofNode (.float x)) := by
  have less : x.rank < infiniteRank := of_decide_eq_true finite
  obtain ⟨y, there, sign, found, read⟩ := ofJson_float finite
  rw [scale?_of_hits short near (written_hits less) less] at found
  have rank : y.rank = x.rank := (congrArg Binary64.rank (Option.some.inj found)).symm
  rw [read, Binary64.eq_of_parts sign rank]

/-- A number that is given with up to fourteen digits, at most 21 of them after the point, is kept. -/
theorem ofJson_float_of_short {digits places : Nat} (short : digits < tenTo 14) (few : places ≤ 21)
    (negative : Bool) :
    let x := Binary64.ofDecimal negative digits (-places)
    x.isFinite = true ∧ ofJson (ofNode (.float x)).toJson = .ok (ofNode (.float x)) := by
  intro x
  obtain ⟨less, hits⟩ := ofDecimal_hits (d := ⟨digits, -places⟩) short (by simp; omega) (by simp) negative
  have finite : x.isFinite = true := decide_eq_true less
  obtain ⟨significand, power⟩ := written_of_hits less hits short (by simp; omega) (by simp)
  exact ⟨finite, ofJson_float_of_exact finite significand power⟩

-- 1.4000000000000001 is the number after 1.4. Its text has all its digits, and is read as 1.4.
theorem exists_ofJson_float_ne :
    ∃ x y : Binary64, x.isFinite = true ∧ x.write .document = "1.4000000000000001".toList ∧
      y.write .document = "1.4".toList ∧
      ofJson (ofNode (.float x)).toJson = .ok (ofNode (.float y)) ∧
      (ofNode (.float y)).same (ofNode (.float x)) = false := by
  have finite : Binary64.isFinite ⟨false, 0x3ff6666666666667, by decide⟩ = true := by decide
  obtain ⟨y, -, sign, found, read⟩ := ofJson_float finite
  have scaled : scale? 3 (ofNat (written 0x3ff6666666666667).digits) (written 0x3ff6666666666667).exponent =
      some ⟨false, 0x3ff6666666666666, by decide⟩ := by
    decide +kernel
  rw [scaled] at found
  have rank : 0x3ff6666666666666 = y.rank := congrArg Binary64.rank (Option.some.inj found)
  obtain rfl : (⟨false, 0x3ff6666666666666, by decide⟩ : Binary64) = y :=
    Binary64.eq_of_parts sign.symm rank
  exact ⟨_, _, finite, by decide +kernel, by decide +kernel, read, by decide +kernel⟩

end Rule

end Verdict
