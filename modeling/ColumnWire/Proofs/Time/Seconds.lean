import ColumnWire.Proofs.Number.Decimal
import ColumnWire.Time.Span

/-!
# Seconds and their texts

A span that was read from a number of seconds is no longer than the greatest double-precision number below
`2 ^ 64` says (`isTold_of_ofBinarySeconds?`), and the text of the seconds of any such span is read as some
span (`IsTold.exists_ofBinarySeconds?_text`): neither the rounding of the seconds nor that of their decimal
goes past that number, since both start less than half a step past it.
-/

namespace ColumnWire.Time.Span

open ColumnWire.Number

variable {x : Binary64} {t : Span} {negative : Bool} {n d m : Nat} {q : Int}

/-- The greatest double-precision number below `2 ^ 64`. -/
def greatestSeconds : Nat := 2 ^ 64 - 2 ^ 11

/-- A span that is no longer than a double-precision number of seconds can tell. -/
def IsTold (t : Span) : Prop :=
  t.nanos ≤ greatestSeconds * 1000000000

/-! ## The greatest number of seconds -/

/-- Its significand is the greatest one. -/
lemma cast_greatestSeconds : (greatestSeconds : ℚ) = (2 ^ 53 - 1 : Nat) * 2 ^ (11 : Int) := by
  norm_num [greatestSeconds]

/-- It is a normal number. -/
lemma isNormal_greatestSeconds : Layout.double.IsNormal (2 ^ 53 - 1) 11 :=
  ⟨by decide, by decide, by decide, by decide⟩

/-- So is one. -/
lemma isNormal_one : Layout.double.IsNormal (2 ^ 52) (-52) :=
  ⟨by decide, by decide, by decide, by decide⟩

/-- A double-precision number below `2 ^ 64` has a significand and an exponent that are at most those of the
greatest one. -/
lemma le_of_lt_size (hx : x.datum = .finite negative m q) (h : (m : ℚ) * 2 ^ q < UInt64.size) :
    m ≤ 2 ^ 53 - 1 ∧ q ≤ 11 := by
  obtain ⟨hsignificand, _⟩ := Layout.read_eq_finite hx
  have hcount : Layout.double.fractionCount = 2 ^ 52 := rfl
  rw [hcount] at hsignificand
  refine ⟨by omega, Layout.exponent_le_of_lt hx isNormal_greatestSeconds.least (h.trans_eq ?_)⟩
  rw [hcount]
  norm_num [UInt64.size]

/-- What rounds from less than half a step past the greatest number is at most that. -/
lemma exists_datum_ofRatio_le (hd : 0 < d) (h : (n : ℚ) / d < greatestSeconds + 1024) :
    ∃ m q, (Binary64.ofRatio false n d).datum = .finite false m q ∧
      (m : ℚ) * 2 ^ q ≤ greatestSeconds := by
  rw [cast_greatestSeconds] at h ⊢
  refine Binary64.exists_datum_ofRatio isNormal_greatestSeconds hd (h.trans_eq ?_)
  norm_num

/-- A fraction of a second rounds to one at most. -/
lemma exists_datum_ofRatio_le_one (h : n < d) :
    ∃ m q, (Binary64.ofRatio false n d).datum = .finite false m q ∧ (m : ℚ) * 2 ^ q ≤ 1 := by
  have hd : (0 : ℚ) < d := by exact_mod_cast (Nat.zero_le n).trans_lt h
  have hless : (n : ℚ) / d < 1 := by
    rw [div_lt_one hd]
    exact_mod_cast h
  have hone : ((2 ^ 52 : Nat) : ℚ) * 2 ^ (-52 : Int) = 1 := by norm_num
  rw [← hone]
  refine Binary64.exists_datum_ofRatio isNormal_one (by exact_mod_cast hd) (hless.trans ?_)
  norm_num

/-! ## Spans that are read -/

/-- A finite number that is not negative is that of a span if it is below `2 ^ 64`. -/
lemma exists_ofBinarySeconds? (hx : x.datum = .finite false m q)
    (h : (m : ℚ) * 2 ^ q < UInt64.size) : ∃ t, ofBinarySeconds? x = some t := by
  rw [← powerOfTwoRatio_eq, div_lt_iff₀ (cast_powerOfTwoRatio_pos m q), mul_comm] at h
  have hless : ¬ (powerOfTwoRatio m q).2 * UInt64.size ≤ (powerOfTwoRatio m q).1 := by
    rw [not_le]
    exact_mod_cast h
  unfold ofBinarySeconds?
  rw [hx]
  simp only [Bool.false_and, Bool.false_eq_true, if_false, hless]
  exact ⟨_, rfl⟩

/-- A span that was read from a number of seconds is no longer than the greatest of them. -/
lemma isTold_of_ofBinarySeconds? (h : ofBinarySeconds? x = some t) : t.IsTold := by
  unfold ofBinarySeconds? at h
  split at h
  · cases h
  · cases h
  · next negative m q hx =>
      dsimp only at h
      split_ifs at h with hnegative hlarge
      cases h
      have hvalue := powerOfTwoRatio_eq m q
      have hless : (m : ℚ) * 2 ^ q < UInt64.size := by
        rw [← hvalue, div_lt_iff₀ (cast_powerOfTwoRatio_pos m q), mul_comm]
        exact_mod_cast not_le.1 hlarge
      obtain ⟨hm, hq⟩ := le_of_lt_size hx hless
      have hgreatest : (m : ℚ) * 2 ^ q ≤ greatestSeconds := by
        rw [cast_greatestSeconds]
        gcongr
        exact one_le_two
      refine divHalfEven_le (powerOfTwoRatio_pos m q) ?_
      rw [← hvalue] at hgreatest
      calc (((powerOfTwoRatio m q).1 * 1000000000 : Nat) : ℚ) / (powerOfTwoRatio m q).2
          = (powerOfTwoRatio m q).1 / (powerOfTwoRatio m q).2 * 1000000000 := by
            push_cast
            ring
        _ ≤ greatestSeconds * 1000000000 := by gcongr
        _ < (greatestSeconds * 1000000000 : Nat) + 1 / 2 := by
          push_cast
          linarith

/-! ## Spans that are written -/

/-- The magnitude of a finite number is what it stands for. -/
lemma magnitude_eq (hx : x.datum = .finite negative m q) : magnitude x = powerOfTwoRatio m q := by
  rw [magnitude, hx]

/-- The seconds of a span that is no longer than the greatest number are at most that number. -/
lemma IsTold.exists_datum (h : t.IsTold) :
    ∃ m q, t.toBinarySeconds.datum = .finite false m q ∧ (m : ℚ) * 2 ^ q ≤ greatestSeconds := by
  unfold IsTold at h
  have hwhole : t.nanos / 1000000000 ≤ greatestSeconds :=
    (Nat.div_le_div_right h).trans_eq (Nat.mul_div_cancel _ (by decide))
  obtain ⟨m, q, hdatum, hle⟩ := exists_datum_ofRatio_le (n := t.nanos / 1000000000) Nat.one_pos (by
    rw [Nat.cast_one, div_one]
    have hwhole' : ((t.nanos / 1000000000 : Nat) : ℚ) ≤ greatestSeconds := by exact_mod_cast hwhole
    linarith)
  obtain ⟨m', q', hdatum', hle'⟩ :=
    exists_datum_ofRatio_le_one (Nat.mod_lt t.nanos (show 0 < 1000000000 by decide))
  have hseconds : t.toBinarySeconds = Binary64.ofRatio false
      ((powerOfTwoRatio m q).1 * (powerOfTwoRatio m' q').2 +
        (powerOfTwoRatio m' q').1 * (powerOfTwoRatio m q).2)
      ((powerOfTwoRatio m q).2 * (powerOfTwoRatio m' q').2) := by
    rw [toBinarySeconds, Binary64.ofNat, magnitude_eq hdatum, magnitude_eq hdatum']
  rw [hseconds]
  refine exists_datum_ofRatio_le
    (Nat.mul_pos (powerOfTwoRatio_pos m q) (powerOfTwoRatio_pos m' q')) ?_
  rw [← powerOfTwoRatio_eq] at hle hle'
  have hsum : (((powerOfTwoRatio m q).1 * (powerOfTwoRatio m' q').2 +
      (powerOfTwoRatio m' q').1 * (powerOfTwoRatio m q).2 : Nat) : ℚ) /
        ((powerOfTwoRatio m q).2 * (powerOfTwoRatio m' q').2 : Nat) =
      (powerOfTwoRatio m q).1 / (powerOfTwoRatio m q).2 +
        (powerOfTwoRatio m' q').1 / (powerOfTwoRatio m' q').2 := by
    have hne := (cast_powerOfTwoRatio_pos m q).ne'
    have hne' := (cast_powerOfTwoRatio_pos m' q').ne'
    push_cast
    field_simp
  rw [hsum]
  linarith

/-- The text of the seconds of such a span is read as a span. -/
theorem IsTold.exists_ofBinarySeconds?_text (h : t.IsTold) :
    ∃ t', (readBinary64? t.toBinarySeconds.text.toList).bind ofBinarySeconds? = some t' := by
  obtain ⟨m, q, hdatum, hle⟩ := h.exists_datum
  have hsize : (greatestSeconds : ℚ) < UInt64.size := by exact_mod_cast (by decide)
  obtain ⟨hm, hq⟩ := le_of_lt_size hdatum (hle.trans_lt hsize)
  have hhalf : ((2 ^ 53 - 1 : Nat) + 1 / 2 : ℚ) * 2 ^ (11 : Int) = greatestSeconds + 1024 := by
    norm_num [greatestSeconds]
  have hstep : ((m : ℚ) + 1 / 2) * 2 ^ q ≤ greatestSeconds + 1024 := by
    rw [← hhalf]
    gcongr
    exact one_le_two
  have hfar : (greatestSeconds : ℚ) + 1024 < 10 ^ 400 :=
    calc (greatestSeconds : ℚ) + 1024 < 10 ^ 20 := by norm_num [greatestSeconds]
      _ ≤ 10 ^ 400 := pow_le_pow_right₀ (by norm_num) (by decide)
  obtain ⟨n, k, hk, hread, hbelow, hodd⟩ := Binary64.exists_readBinary64?_text hdatum
    (hstep.trans_lt hfar)
  -- The greatest significand is odd, so its basin is open; with any other the decimal is farther below.
  have hless : (n : ℚ) / k < greatestSeconds + 1024 := by
    rcases hm.eq_or_lt with rfl | hm
    · exact (hodd (by decide)).trans_le hstep
    · have hm' : (m : ℚ) < (2 ^ 53 - 1 : Nat) := by exact_mod_cast hm
      calc (n : ℚ) / k ≤ (m + 1 / 2) * 2 ^ q := hbelow
        _ ≤ (m + 1 / 2) * 2 ^ (11 : Int) :=
          mul_le_mul_of_nonneg_left (zpow_le_zpow_right₀ one_le_two hq) (by positivity)
        _ < ((2 ^ 53 - 1 : Nat) + 1 / 2) * 2 ^ (11 : Int) := by gcongr
        _ = greatestSeconds + 1024 := hhalf
  obtain ⟨m', q', hdatum', hle'⟩ := exists_datum_ofRatio_le hk hless
  rw [hread]
  exact exists_ofBinarySeconds? hdatum' (hle'.trans_lt hsize)

end ColumnWire.Time.Span
