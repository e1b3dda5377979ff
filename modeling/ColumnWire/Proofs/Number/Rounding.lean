import Mathlib.Algebra.Order.Field.Power
import Mathlib.Tactic.FieldSimp
import Mathlib.Tactic.Linarith
import Mathlib.Tactic.Positivity
import Mathlib.Tactic.Ring
import ColumnWire.Number.Binary

/-!
# Bounds of rounding

How far rounding to a binary format goes up, in rational numbers: a quotient that is less than half a step
past a normal number `M * 2 ^ Q` does not round past it (`Layout.IsNormal.round_le`), and a pattern that is
not past that of the number is read as a number that is not past it (`Layout.IsNormal.exists_read`). For
double precision both together are `Binary64.exists_datum_ofRatio`. What the steps of a quotient are is said
by `Layout.stepExponent_spec`.
-/

namespace ColumnWire.Number

variable {n d k m : Nat} {q : Int}

/-! ## Quotients -/

/-- A power of two has a denominator. -/
lemma powerOfTwoRatio_pos (m : Nat) (q : Int) : 0 < (powerOfTwoRatio m q).2 := by
  unfold powerOfTwoRatio
  split_ifs
  · exact Nat.one_pos
  · exact Nat.pow_pos (by decide)

/-- The denominator is positive as a rational number as well. -/
lemma cast_powerOfTwoRatio_pos (m : Nat) (q : Int) : (0 : ℚ) < (powerOfTwoRatio m q).2 :=
  Nat.cast_pos.2 (powerOfTwoRatio_pos m q)

/-- It stands for what it says. -/
lemma powerOfTwoRatio_eq (m : Nat) (q : Int) :
    ((powerOfTwoRatio m q).1 : ℚ) / (powerOfTwoRatio m q).2 = m * 2 ^ q := by
  unfold powerOfTwoRatio
  split_ifs with hq
  · lift q to Nat using hq
    simp
  · obtain ⟨k, rfl⟩ : ∃ k : Nat, q = -k := ⟨(-q).toNat, by omega⟩
    simp [div_eq_mul_inv]

/-- So does the power of two alone. -/
lemma powerOfTwoRatio_one_eq (q : Int) :
    ((powerOfTwoRatio 1 q).1 : ℚ) / (powerOfTwoRatio 1 q).2 = 2 ^ q := by
  rw [powerOfTwoRatio_eq, Nat.cast_one, one_mul]

/-- The nearest natural is not past a natural that the quotient is less than a half past. -/
lemma divHalfEven_le (hd : 0 < d) (h : (n : ℚ) / d < k + 1 / 2) : divHalfEven n d ≤ k := by
  have hd' : (0 : ℚ) < d := by exact_mod_cast hd
  have hless : 2 * n < (2 * k + 1) * d := by
    rw [div_lt_iff₀ hd'] at h
    have hcast : (2 * n : ℚ) < (2 * k + 1) * d := by linarith
    exact_mod_cast hcast
  have hdivision := Nat.div_add_mod n d
  have hlow : 2 * (n / d) < 2 * k + 1 := by
    refine Nat.lt_of_mul_lt_mul_right (a := d) ?_
    calc 2 * (n / d) * d = 2 * (d * (n / d)) := by ring
      _ ≤ 2 * n := by omega
      _ < (2 * k + 1) * d := hless
  unfold divHalfEven
  dsimp only
  split_ifs with hdown
  · omega
  · have hhalf : d ≤ 2 * (n % d) := by
      by_contra hless
      exact hdown (.inl (by omega))
    have hhigh : 2 * (n / d) + 1 < 2 * k + 1 := by
      refine Nat.lt_of_mul_lt_mul_right (a := d) ?_
      calc (2 * (n / d) + 1) * d = 2 * (d * (n / d)) + d := by ring
        _ ≤ 2 * n := by omega
        _ < (2 * k + 1) * d := hless
    omega

namespace Layout

variable {l : Layout} {bits M : Nat} {Q : Int}

/-- The pattern of the number `M * 2 ^ Q`. -/
def pattern (l : Layout) (M : Nat) (Q : Int) : Nat :=
  (Q - l.leastExponent).toNat * l.fractionCount + M

/-- The number `M * 2 ^ Q` is finite and has all the digits of the format. -/
structure IsNormal (l : Layout) (M : Nat) (Q : Int) : Prop where
  /-- Its exponent is one of the format. -/
  least : l.leastExponent ≤ Q
  /-- Its significand is not too small. -/
  wide : l.fractionCount ≤ M
  /-- Nor is it too large. -/
  narrow : M < 2 * l.fractionCount
  /-- It is not infinite. -/
  finite : l.pattern M Q < l.infinityBits

/-! ## The exponent of a quotient -/

/-- A positive natural lies between two powers of two. -/
lemma log2_bounds (hn : 0 < n) : (2 : ℚ) ^ (n.log2 : Int) ≤ n ∧ (n : ℚ) < 2 ^ ((n.log2 : Int) + 1) := by
  have hlow : 2 ^ n.log2 ≤ n := Nat.log2_self_le hn.ne'
  have hhigh : n < 2 ^ (n.log2 + 1) := Nat.lt_log2_self
  constructor
  · exact_mod_cast hlow
  · exact_mod_cast hhigh

/-- A positive quotient lies between two powers of two. -/
lemma floorLog2_spec (hn : 0 < n) (hd : 0 < d) :
    (2 : ℚ) ^ floorLog2 n d ≤ n / d ∧ (n : ℚ) / d < 2 ^ (floorLog2 n d + 1) := by
  obtain ⟨hnlow, hnhigh⟩ := log2_bounds hn
  obtain ⟨hdlow, hdhigh⟩ := log2_bounds hd
  have hd' : (0 : ℚ) < d := by exact_mod_cast hd
  have htwo : (2 : ℚ) ≠ 0 := two_ne_zero
  set e : Int := (n.log2 : Int) - d.log2 with he
  have hlow : (2 : ℚ) ^ (e - 1) ≤ n / d := by
    rw [le_div_iff₀ hd']
    calc (2 : ℚ) ^ (e - 1) * d ≤ 2 ^ (e - 1) * 2 ^ ((d.log2 : Int) + 1) := by gcongr
      _ = 2 ^ (n.log2 : Int) := by rw [← zpow_add₀ htwo]; congr 1; omega
      _ ≤ n := hnlow
  have hhigh : (n : ℚ) / d < 2 ^ (e + 1) := by
    rw [div_lt_iff₀ hd']
    calc (n : ℚ) < 2 ^ ((n.log2 : Int) + 1) := hnhigh
      _ = 2 ^ (e + 1) * 2 ^ (d.log2 : Int) := by rw [← zpow_add₀ htwo]; congr 1; omega
      _ ≤ 2 ^ (e + 1) * d := by gcongr
  have hsplit : n * (powerOfTwoRatio 1 e).2 < (powerOfTwoRatio 1 e).1 * d ↔ (n : ℚ) / d < 2 ^ e := by
    rw [← powerOfTwoRatio_one_eq, div_lt_div_iff₀ hd' (cast_powerOfTwoRatio_pos 1 e)]
    exact_mod_cast Iff.rfl
  unfold floorLog2
  dsimp only
  rw [← he]
  split_ifs with hless
  · exact ⟨hlow, by rw [sub_add_cancel]; exact hsplit.1 hless⟩
  · exact ⟨not_lt.1 fun h => hless (hsplit.2 h), hhigh⟩

/-! ## Rounding -/

/-- The fractions are counted by a power of two. -/
lemma cast_fractionCount (l : Layout) : (l.fractionCount : ℚ) = 2 ^ (l.fractionBits : Int) := by
  simp [fractionCount]

/-- The exponent of the steps that a quotient is rounded to. -/
def stepExponent (l : Layout) (n d : Nat) : Int :=
  max l.leastExponent (floorLog2 n d - l.fractionBits)

/-- What has at least as many steps as there are fractions, and less than twice as many of other steps, has
steps that are no larger than the others. -/
lemma exponent_le {x : ℚ} (hlow : l.fractionCount * 2 ^ q ≤ x) (hhigh : x < 2 * l.fractionCount * 2 ^ Q) :
    q ≤ Q := by
  by_contra hlarge
  refine lt_irrefl x (hhigh.trans_le ?_)
  calc 2 * l.fractionCount * (2 : ℚ) ^ Q = l.fractionCount * 2 ^ (1 + Q) := by
        rw [zpow_one_add₀ two_ne_zero]
        ring
    _ ≤ l.fractionCount * 2 ^ q := by
      gcongr
      · exact one_le_two
      · omega
    _ ≤ x := hlow

/-- A quotient has at most twice as many steps as there are fractions, and, above the least steps, at least
once as many. -/
lemma stepExponent_spec (l : Layout) (hn : 0 < n) (hd : 0 < d) :
    (n : ℚ) / d < 2 * l.fractionCount * 2 ^ l.stepExponent n d ∧
      (l.leastExponent < l.stepExponent n d → l.fractionCount * 2 ^ l.stepExponent n d ≤ (n : ℚ) / d) := by
  obtain ⟨hlow, hhigh⟩ := floorLog2_spec hn hd
  have htwo : (2 : ℚ) ≠ 0 := two_ne_zero
  rw [l.cast_fractionCount]
  constructor
  · calc (n : ℚ) / d < 2 ^ (floorLog2 n d + 1) := hhigh
      _ ≤ 2 ^ (1 + (l.fractionBits : Int) + l.stepExponent n d) :=
        zpow_le_zpow_right₀ one_le_two (by unfold stepExponent; omega)
      _ = 2 * 2 ^ (l.fractionBits : Int) * 2 ^ l.stepExponent n d := by
        rw [zpow_add₀ htwo, zpow_add₀ htwo, zpow_one]
  · intro hleast
    have hstep : (l.fractionBits : Int) + l.stepExponent n d = floorLog2 n d := by
      unfold stepExponent at hleast ⊢
      omega
    rw [← zpow_add₀ htwo, hstep]
    exact hlow

/-- The steps of a quotient that is less than half a step past a natural number of them are rounded to no
more. -/
lemma divHalfEven_steps_le (hd : 0 < d) (h : (n : ℚ) / d < (k + 1 / 2) * 2 ^ q) :
    divHalfEven (n * (powerOfTwoRatio 1 q).2) (d * (powerOfTwoRatio 1 q).1) ≤ k := by
  have hpos := cast_powerOfTwoRatio_pos 1 q
  have hstep : (0 : ℚ) < 2 ^ q := by positivity
  have hunit : ((powerOfTwoRatio 1 q).1 : ℚ) = 2 ^ q * (powerOfTwoRatio 1 q).2 := by
    rw [← powerOfTwoRatio_one_eq]
    field_simp
  have hden : (0 : ℚ) < (powerOfTwoRatio 1 q).1 := by
    rw [hunit]
    positivity
  refine divHalfEven_le (Nat.mul_pos hd (by exact_mod_cast hden)) ?_
  have hsame : ((n * (powerOfTwoRatio 1 q).2 : Nat) : ℚ) / (d * (powerOfTwoRatio 1 q).1 : Nat) =
      n / d / 2 ^ q := by
    push_cast
    rw [hunit]
    field_simp
  rw [hsame, div_lt_iff₀ hstep]
  exact h

/-- A quotient that is less than half a step past a number does not round past it. -/
lemma IsNormal.round_le (hM : l.IsNormal M Q) (hd : 0 < d) (h : (n : ℚ) / d < (M + 1 / 2) * 2 ^ Q) :
    l.round false n d ≤ l.pattern M Q := by
  rcases Nat.eq_zero_or_pos n with rfl | hn
  · simp [Layout.round]
  obtain ⟨hhigh, hlow⟩ := l.stepExponent_spec hn hd
  have hwide := hM.wide
  set q := l.stepExponent n d with hq
  have hleast : l.leastExponent ≤ q := le_max_left _ _
  suffices hmagnitude : (q - l.leastExponent).toNat * l.fractionCount +
      divHalfEven (n * (powerOfTwoRatio 1 q).2) (d * (powerOfTwoRatio 1 q).1) ≤ l.pattern M Q by
    unfold Layout.round
    rw [if_neg hn.ne']
    change 0 + min _ _ ≤ _
    rw [Nat.zero_add]
    exact (Nat.min_le_left _ _).trans hmagnitude
  unfold pattern
  rcases lt_trichotomy q Q with hless | hsame | hmore
  · -- Below the number's own steps there are at most twice as many of them as fractions.
    have hcount : divHalfEven (n * (powerOfTwoRatio 1 q).2) (d * (powerOfTwoRatio 1 q).1) ≤
        2 * l.fractionCount := by
      refine divHalfEven_steps_le hd (hhigh.trans ?_)
      push_cast
      gcongr
      linarith
    have hbehind : (q - l.leastExponent).toNat + 1 ≤ (Q - l.leastExponent).toNat := by omega
    have hproduct := Nat.mul_le_mul_right l.fractionCount hbehind
    rw [Nat.add_mul, Nat.one_mul] at hproduct
    omega
  · rw [hsame]
    exact Nat.add_le_add_left (divHalfEven_steps_le hd h) _
  · exfalso
    have hnarrow : (M : ℚ) + 1 ≤ 2 * l.fractionCount := by exact_mod_cast hM.narrow
    have hbelow : (n : ℚ) / d < 2 * l.fractionCount * 2 ^ Q :=
      calc (n : ℚ) / d < (M + 1 / 2) * 2 ^ Q := h
        _ ≤ 2 * l.fractionCount * 2 ^ Q := by gcongr; linarith
    exact absurd (exponent_le (hlow (hM.least.trans_lt hmore)) hbelow) (not_le.2 hmore)

/-! ## Reading -/

/-- A pattern that is not past that of a number is read as a number that is not past it. -/
lemma IsNormal.exists_read (hM : l.IsNormal M Q) (h : bits ≤ l.pattern M Q) :
    ∃ m q, l.read bits = .finite false m q ∧ (m : ℚ) * 2 ^ q ≤ M * 2 ^ Q := by
  obtain ⟨hleast, hwide, hnarrow, hfinite⟩ := hM
  have hcount : 0 < l.fractionCount := Nat.pow_pos (by decide)
  have hdivision := Nat.div_add_mod bits l.fractionCount
  have hfraction := Nat.mod_lt bits hcount
  set field := bits / l.fractionCount with hfield
  set fraction := bits % l.fractionCount with hfraction'
  have hfield' : field < l.exponentCount - 1 := by
    rw [hfield, Nat.div_lt_iff_lt_mul hcount]
    exact h.trans_lt hfinite
  have hnegative : bits / l.signWeight % 2 = 0 := by
    have hsign : bits < l.signWeight := by
      refine (h.trans_lt hfinite).trans_le ?_
      exact Nat.mul_le_mul_right _ (Nat.sub_le _ _)
    rw [Nat.div_eq_of_lt hsign]
  unfold pattern at h
  unfold Layout.read
  rw [hnegative, ← hfield, Nat.mod_eq_of_lt (show field < l.exponentCount by omega)]
  simp only [Nat.reduceBEq]
  rw [if_neg hfield'.ne, ← hfraction']
  split_ifs with hzero
  · refine ⟨_, _, rfl, ?_⟩
    gcongr
    · omega
    · exact one_le_two
  · refine ⟨_, _, rfl, ?_⟩
    have hstep : field ≤ (Q - l.leastExponent).toNat + 1 := by
      refine Nat.le_of_lt_succ (Nat.lt_of_mul_lt_mul_left (a := l.fractionCount) ?_)
      calc l.fractionCount * field ≤ bits := by omega
        _ < (Q - l.leastExponent).toNat * l.fractionCount + 2 * l.fractionCount := by omega
        _ = l.fractionCount * ((Q - l.leastExponent).toNat + 1).succ := by
          rw [Nat.succ_eq_add_one]
          ring
    rcases hstep.eq_or_lt with hsame | hless
    · -- The steps are the same, so it is the significand that is not larger.
      have hexponent : l.leastExponent + field - 1 = Q := by omega
      have hsignificand : l.fractionCount + fraction ≤ M := by
        rw [hsame, Nat.mul_add, Nat.mul_one, Nat.mul_comm] at hdivision
        omega
      rw [hexponent]
      gcongr
    · have hexponent : 1 + (l.leastExponent + field - 1) ≤ Q := by omega
      calc ((l.fractionCount + fraction : Nat) : ℚ) * 2 ^ (l.leastExponent + field - 1)
          ≤ (l.fractionCount * 2 : Nat) * 2 ^ (l.leastExponent + field - 1) := by gcongr; omega
        _ = l.fractionCount * 2 ^ (1 + (l.leastExponent + field - 1)) := by
          rw [zpow_one_add₀ two_ne_zero]
          push_cast
          ring
        _ ≤ M * 2 ^ Q := by
          gcongr
          exact one_le_two

/-- A number that is read has a significand of the format's width, unless it is one of the least. -/
lemma read_eq_finite {negative : Bool} (h : l.read bits = .finite negative m q) :
    m < 2 * l.fractionCount ∧ l.leastExponent ≤ q ∧ (l.leastExponent < q → l.fractionCount ≤ m) := by
  have hfraction := Nat.mod_lt bits (show 0 < l.fractionCount from Nat.pow_pos (by decide))
  unfold read at h
  dsimp only at h
  split_ifs at h with hinfinite hzero hsubnormal
  · cases h
    exact ⟨by omega, le_rfl, fun hless => absurd hless (lt_irrefl _)⟩
  · cases h
    exact ⟨by omega, by omega, fun _ => Nat.le_add_right _ _⟩

/-- A number that is read and is less than all the significands at an exponent are for has no larger
exponent. -/
lemma exponent_le_of_lt {negative : Bool} (h : l.read bits = .finite negative m q)
    (hQ : l.leastExponent ≤ Q) (hless : (m : ℚ) * 2 ^ q < 2 * l.fractionCount * 2 ^ Q) : q ≤ Q := by
  obtain ⟨_, _, hnormal⟩ := read_eq_finite h
  by_contra hlarge
  have hwide : (l.fractionCount : ℚ) ≤ m := by exact_mod_cast hnormal (by omega)
  exact hlarge (exponent_le (by gcongr) hless)

end Layout

/-- A quotient that is less than half a step past a double-precision number rounds to a number that is not past
it. -/
theorem Binary64.exists_datum_ofRatio {M : Nat} {Q : Int} (hM : Layout.double.IsNormal M Q) (hd : 0 < d)
    (h : (n : ℚ) / d < (M + 1 / 2) * 2 ^ Q) :
    ∃ m q, (Binary64.ofRatio false n d).datum = .finite false m q ∧ (m : ℚ) * 2 ^ q ≤ M * 2 ^ Q := by
  have hround := hM.round_le hd h
  have hfinite := hM.finite
  have hsize : Layout.double.infinityBits < UInt64.size := by decide
  unfold Binary64.datum Binary64.ofRatio
  rw [UInt64.toNat_ofNat_of_lt' (by omega)]
  exact hM.exists_read hround

end ColumnWire.Number
