import Mathlib.Tactic.Common
import ColumnWire.Number.Wrap

/-!
# Signed numbers in unsigned words

What the two conversions between signed numbers and their patterns do in terms of integers, at every
width up to 64 bits: `overflowingWrap_eq` and `toNat_unwrapSigned`. A number that fits into the width is
the one of its pattern (`wrapSigned_unwrapSigned`), and the pattern is that of its number
(`unwrapSigned_wrapSigned`).

The number of patterns of 63 bits is one more than the greatest signed word. So at this width, and at no
other, the subtraction that makes a number negative leaves the signed words (`overflowingSub_eq`); the
word that it wraps to is the right one. Main statement: `overflowingWrap_spec`.
-/

namespace ColumnWire.Number

variable {bits : Nat}

/-- Below 64 bits, a shifted one is the number of patterns. -/
lemma toNat_one_shiftLeft (h : bits < 64) :
    ((1 : UInt64) <<< UInt64.ofNat bits).toNat = Nat.pow 2 bits := by
  have hbits : (UInt64.ofNat bits).toNat = bits := UInt64.toNat_ofNat_of_lt' (by
    have hsize : UInt64.size = 2 ^ 64 := rfl
    omega)
  have hlt : 2 ^ bits < 2 ^ 64 := Nat.pow_lt_pow_right (by omega) h
  rw [UInt64.toNat_shiftLeft, hbits, Nat.mod_eq_of_lt h]
  change (1 <<< bits) % 2 ^ 64 = 2 ^ bits
  rw [Nat.one_shiftLeft, Nat.mod_eq_of_lt hlt]

/-- Half of the patterns have their highest bit set. -/
lemma two_pow_eq_two_mul (hpos : 0 < bits) : Nat.pow 2 bits = 2 * Nat.pow 2 (bits - 1) := by
  change 2 ^ bits = 2 * 2 ^ (bits - 1)
  rw [← Nat.pow_succ', Nat.succ_eq_add_one, Nat.sub_add_cancel hpos]

/-- A word is the signed number of its value. -/
lemma toInt64_eq_ofInt (x : UInt64) : x.toInt64 = Int64.ofInt x.toNat := by
  rw [Int64.ofInt_eq_ofNat, ← UInt64.toInt64_ofNat', UInt64.ofNat_toNat]

/-- The pattern of a signed number as a natural. -/
lemma toNat_toUInt64_ofInt (i : Int) :
    ((Int64.ofInt i).toUInt64.toNat : Int) = i % (Nat.pow 2 64 : Nat) := by
  change ((BitVec.ofInt 64 i).toNat : Int) = _
  rw [BitVec.toNat_ofInt, Int.toNat_of_nonneg (Int.emod_nonneg _ (by decide))]

/-- A word below `2 ^ 63` is a signed number. -/
lemma toInt_toInt64_of_lt {x : UInt64} (h : x.toNat < Nat.pow 2 63) : x.toInt64.toInt = x.toNat := by
  have hpow : Nat.pow 2 63 = 9223372036854775808 := rfl
  rw [toInt64_eq_ofInt]
  exact Int64.toInt_ofInt_of_le (by omega) (by omega)

/-- The number of patterns is a signed number at every width below 63, and the least one at 63. -/
lemma toInt_modulus (h : bits < 64) :
    ((1 : UInt64) <<< UInt64.ofNat bits).toInt64.toInt =
      if bits = 63 then -((Nat.pow 2 63 : Nat) : Int) else ((Nat.pow 2 bits : Nat) : Int) := by
  split
  · rename_i h63
    rw [h63]
    rfl
  · have hlt : Nat.pow 2 bits < Nat.pow 2 63 := Nat.pow_lt_pow_right (by omega) (by omega)
    have hmodulus := toNat_one_shiftLeft h
    rw [toInt_toInt64_of_lt (by omega), hmodulus]

/-- Making a number negative gives the word that is less by the number of patterns. The exact difference
leaves the signed words at a width of 63 bits, and at no other. -/
lemma overflowingSub_eq (h : bits < 64) {raw : UInt64} (hlt : raw.toNat < Nat.pow 2 bits) :
    overflowingSub raw.toInt64 ((1 : UInt64) <<< UInt64.ofNat bits).toInt64 =
      (Int64.ofInt (raw.toNat - Nat.pow 2 bits), decide (bits = 63)) := by
  have hmodulus := toNat_one_shiftLeft h
  have hword : raw.toInt64 - ((1 : UInt64) <<< UInt64.ofNat bits).toInt64 =
      Int64.ofInt (raw.toNat - Nat.pow 2 bits) := by
    rw [toInt64_eq_ofInt, toInt64_eq_ofInt, hmodulus, Int64.ofInt_sub]
  have hle : Nat.pow 2 bits ≤ Nat.pow 2 63 := Nat.pow_le_pow_right (by omega) (by omega)
  have hraw : raw.toInt64.toInt = raw.toNat := toInt_toInt64_of_lt (by omega)
  have h63 : Nat.pow 2 63 = 9223372036854775808 := rfl
  have hflag : BitVec.ssubOverflow raw.toInt64.toBitVec
      ((1 : UInt64) <<< UInt64.ofNat bits).toInt64.toBitVec = decide (bits = 63) := by
    rw [BitVec.ssubOverflow, Int64.toInt_toBitVec, Int64.toInt_toBitVec, hraw, toInt_modulus h,
      ← Bool.decide_or, decide_eq_decide]
    by_cases hbits : bits = 63
    · -- The number of patterns has become the least signed word.
      rw [if_pos hbits]
      omega
    · rw [if_neg hbits]
      omega
  rw [overflowingSub, hword, hflag]

/-- A word with more bits than the width is no pattern; any other stands for the signed number that is
the same up to the number of patterns. What is computed overflows for the negative numbers of 63 bits. -/
lemma overflowingWrap_eq (hpos : 0 < bits) (hbits : bits ≤ 64) (raw : UInt64) :
    overflowingWrap raw bits =
      if raw.toNat < Nat.pow 2 bits then
        some (Int64.ofInt (Int.bmod raw.toNat (Nat.pow 2 bits)),
          decide (bits = 63 ∧ Nat.pow 2 62 ≤ raw.toNat))
      else none := by
  unfold overflowingWrap
  by_cases h64 : 64 ≤ bits
  · obtain rfl : bits = 64 := by omega
    have hlt : raw.toNat < Nat.pow 2 64 := raw.toNat_lt
    have hsize : Nat.pow 2 64 = Int64.size := rfl
    have hsame : Int64.ofInt raw.toNat = Int64.ofInt (Int.bmod raw.toNat (Nat.pow 2 64)) := by
      rw [← Int64.toInt_inj, Int64.toInt_ofInt, Int64.toInt_ofInt, hsize, Int.bmod_bmod]
    rw [if_pos h64, if_pos hlt, toInt64_eq_ofInt, hsame]
    rfl
  · have hbits' : bits < 64 := by omega
    have hmodulus := toNat_one_shiftLeft hbits'
    have hpow := two_pow_eq_two_mul hpos
    have hhalf : (((1 : UInt64) <<< UInt64.ofNat bits) >>> 1).toNat = Nat.pow 2 (bits - 1) := by
      rw [UInt64.toNat_shiftRight, hmodulus, hpow]
      change (2 * Nat.pow 2 (bits - 1)) / 2 = _
      omega
    rw [if_neg h64]
    simp only [UInt64.le_iff_toNat_le, hmodulus, hhalf]
    by_cases hlt : raw.toNat < Nat.pow 2 bits
    · have hmod : (raw.toNat : Int) % (Nat.pow 2 bits : Nat) = raw.toNat :=
        Int.emod_eq_of_lt (by omega) (by omega)
      rw [if_neg (by omega), if_pos hlt, Int.bmod_def, hmod]
      by_cases hneg : Nat.pow 2 (bits - 1) ≤ raw.toNat
      · have hflag : bits = 63 ↔ bits = 63 ∧ Nat.pow 2 62 ≤ raw.toNat :=
          ⟨fun h => ⟨h, by subst h; exact hneg⟩, And.left⟩
        rw [if_pos hneg, if_neg (by omega), overflowingSub_eq hbits' hlt,
          decide_eq_decide.2 hflag]
      · have hflag : ¬ (bits = 63 ∧ Nat.pow 2 62 ≤ raw.toNat) := by
          rintro ⟨rfl, h⟩
          exact hneg h
        rw [if_neg hneg, if_pos (by omega), toInt64_eq_ofInt, decide_eq_false hflag]
    · rw [if_pos (by omega), if_neg hlt]

/-- A word with more bits than the width is no pattern; any other stands for the signed number that is
the same up to the number of patterns. -/
lemma wrapSigned_eq (hpos : 0 < bits) (hbits : bits ≤ 64) (raw : UInt64) :
    wrapSigned raw bits =
      if raw.toNat < Nat.pow 2 bits then some (Int64.ofInt (Int.bmod raw.toNat (Nat.pow 2 bits)))
      else none := by
  rw [wrapSigned, overflowingWrap_eq hpos hbits]
  split <;> rfl

/-- The pattern of a signed number is the number up to the number of patterns. -/
lemma toNat_unwrapSigned (hbits : bits ≤ 64) (value : Int64) :
    (unwrapSigned value bits).toNat = value.toUInt64.toNat % Nat.pow 2 bits := by
  unfold unwrapSigned
  by_cases h64 : 64 ≤ bits
  · obtain rfl : bits = 64 := by omega
    rw [if_pos h64, Nat.mod_eq_of_lt value.toUInt64.toNat_lt]
  · have hmodulus := toNat_one_shiftLeft (show bits < 64 by omega)
    have hpos : 0 < Nat.pow 2 bits := Nat.pow_pos (by omega)
    have hmask : (((1 : UInt64) <<< UInt64.ofNat bits) - 1).toNat = Nat.pow 2 bits - 1 := by
      rw [UInt64.toNat_sub_of_le _ _ (by rw [UInt64.le_iff_toNat_le, hmodulus]; exact hpos), hmodulus]
      rfl
    rw [if_neg h64, UInt64.toNat_and, hmask]
    exact Nat.and_two_pow_sub_one_eq_mod _ _

/-- A signed number that fits into a width is the one of its pattern in that width. -/
lemma wrapSigned_unwrapSigned (hpos : 0 < bits) (hbits : bits ≤ 64) {i : Int}
    (hlower : -(Nat.pow 2 (bits - 1) : Nat) ≤ i) (hupper : i < (Nat.pow 2 (bits - 1) : Nat)) :
    wrapSigned (unwrapSigned (Int64.ofInt i) bits) bits = some (Int64.ofInt i) := by
  have hP : 0 < Nat.pow 2 bits := Nat.pow_pos (by omega)
  have hpow := two_pow_eq_two_mul hpos
  have hdvd : ((Nat.pow 2 bits : Nat) : Int) ∣ (Nat.pow 2 64 : Nat) :=
    Int.natCast_dvd_natCast.2 (Nat.pow_dvd_pow 2 hbits)
  have hpattern : ((unwrapSigned (Int64.ofInt i) bits).toNat : Int) = i % (Nat.pow 2 bits : Nat) := by
    rw [toNat_unwrapSigned hbits, Int.natCast_emod, toNat_toUInt64_ofInt,
      Int.emod_emod_of_dvd _ hdvd]
  have hlt : (unwrapSigned (Int64.ofInt i) bits).toNat < Nat.pow 2 bits := by
    rw [toNat_unwrapSigned hbits]
    exact Nat.mod_lt _ hP
  have hbmod : Int.bmod i (Nat.pow 2 bits) = i :=
    Int.bmod_eq_of_le (by omega) (by omega)
  rw [wrapSigned_eq hpos hbits, if_pos hlt, hpattern, Int.emod_bmod, hbmod]

/-- The pattern that a signed number was read from is its pattern. -/
lemma unwrapSigned_wrapSigned (hpos : 0 < bits) (hbits : bits ≤ 64) {raw : UInt64} {w : Int64}
    (h : wrapSigned raw bits = some w) : unwrapSigned w bits = raw := by
  rw [wrapSigned_eq hpos hbits] at h
  split at h <;> cases h
  rename_i hraw
  have hdvd : ((Nat.pow 2 bits : Nat) : Int) ∣ (Nat.pow 2 64 : Nat) :=
    Int.natCast_dvd_natCast.2 (Nat.pow_dvd_pow 2 hbits)
  rw [← UInt64.toNat_inj, toNat_unwrapSigned hbits, ← Int.natCast_inj, Int.natCast_emod,
    toNat_toUInt64_ofInt, Int.emod_emod_of_dvd _ hdvd, Int.bmod_emod]
  exact Int.emod_eq_of_lt (Int.natCast_nonneg _) (Int.ofNat_lt.2 hraw)

/-- The number that a pattern of at most 64 bits stands for is a signed word, and that of the pattern in
two's complement. -/
lemma toInt_ofInt_bmod (hbits : bits ≤ 64) (raw : Nat) :
    (Int64.ofInt (Int.bmod raw (Nat.pow 2 bits))).toInt = (BitVec.ofNat bits raw).toInt := by
  have hP : 0 < Nat.pow 2 bits := Nat.pow_pos (by omega)
  have hle : Nat.pow 2 bits ≤ Nat.pow 2 64 := Nat.pow_le_pow_right (by omega) hbits
  have h64 : Nat.pow 2 64 = 18446744073709551616 := rfl
  have hlower := Int.le_bmod (x := raw) hP
  have hupper := Int.bmod_lt (x := raw) hP
  rw [Int64.toInt_ofInt_of_le (by omega) (by omega), BitVec.toInt_ofNat']
  rfl

/-- At every width up to 64 bits, a word is no pattern exactly if it has more bits than the width. Any other
stands for the number of its pattern in two's complement, whose pattern it is again. The way to that number
leaves the signed words exactly at a width of 63 bits and for a negative number. A signed number that fits
into the width is the one of its pattern. -/
theorem overflowingWrap_spec (hpos : 0 < bits) (hbits : bits ≤ 64) (raw : UInt64) (v : Int64) :
    (wrapSigned raw bits = none ↔ Nat.pow 2 bits ≤ raw.toNat) ∧
    (∀ w, wrapSigned raw bits = some w →
      w.toInt = (BitVec.ofNat bits raw.toNat).toInt ∧ unwrapSigned w bits = raw) ∧
    (∀ w overflows, overflowingWrap raw bits = some (w, overflows) →
      (overflows = true ↔ bits = 63 ∧ Nat.pow 2 62 ≤ raw.toNat)) ∧
    (-(Nat.pow 2 (bits - 1) : Nat) ≤ v.toInt → v.toInt < (Nat.pow 2 (bits - 1) : Nat) →
      wrapSigned (unwrapSigned v bits) bits = some v) := by
  refine ⟨?_, fun w hw => ⟨?_, unwrapSigned_wrapSigned hpos hbits hw⟩, fun w overflows hw => ?_,
    fun hlower hupper => ?_⟩
  · rw [wrapSigned_eq hpos hbits, ite_eq_right_iff]
    simp
  · rw [wrapSigned_eq hpos hbits] at hw
    split at hw <;> cases hw
    exact toInt_ofInt_bmod hbits raw.toNat
  · rw [overflowingWrap_eq hpos hbits] at hw
    split at hw <;> cases hw
    exact decide_eq_true_iff
  · have hwrap := wrapSigned_unwrapSigned hpos hbits hlower hupper
    rwa [Int64.ofInt_toInt] at hwrap

/-- The least negative pattern of 63 bits, and the number minus one, whose pattern has all of them. -/
theorem overflowingWrap_spec_sixtyThree :
    (wrapSigned 4611686018427387904 63 = some (-4611686018427387904) ∧
      (-4611686018427387904 : Int64).toInt = (BitVec.ofNat 63 4611686018427387904).toInt ∧
      unwrapSigned (-4611686018427387904) 63 = 4611686018427387904) ∧
    Nat.pow 2 62 ≤ (4611686018427387904 : UInt64).toNat ∧
    wrapSigned (unwrapSigned (-1) 63) 63 = some (-1) := by
  obtain ⟨-, hwrap, hoverflows, hunwrap⟩ :=
    overflowingWrap_spec (by decide : 0 < 63) (by decide) 4611686018427387904 (-1)
  exact ⟨⟨by decide, hwrap _ (by decide)⟩, ((hoverflows (-4611686018427387904) true (by decide)).1 rfl).2,
    hunwrap (by decide) (by decide)⟩

/-- The numbers of both leave the signed words on the way. -/
theorem overflowingWrap_sixtyThree_overflows :
    overflowingWrap 4611686018427387904 63 = some (-4611686018427387904, true) ∧
      overflowingWrap (unwrapSigned (-1) 63) 63 = some (-1, true) := by
  decide

end ColumnWire.Number
