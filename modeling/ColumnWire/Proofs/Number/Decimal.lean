import ColumnWire.Number.Shortest
import ColumnWire.Proofs.Number.Numeral
import ColumnWire.Proofs.Number.Rounding

/-!
# Decimal texts of binary numbers

The text of a positive number is read as a quotient that is at most half a step past the number
(`Binary64.exists_readBinary64?_text`). The decimal that is written is not above the basin of the number
(`Layout.shortest_value_le`), its text consists of digits that are worth the decimal
(`Decimal.exists_isDecimalText`), and such a text is read as what its digits are worth
(`IsDecimalText.readBinary64?_eq`, `exists_decimalToBinary64`).
-/

namespace ColumnWire.Number

variable {b : Basin} {l : Layout} {c m n d : Nat} {q places : Int}
  {ds whole fraction : List Char}

/-! ## Decimals -/

/-- The number that a decimal stands for. -/
def Decimal.value (d : Decimal) : ℚ :=
  d.digits * 10 ^ d.exponent

/-- Trailing zeros that are moved into the exponent do not change it. -/
lemma Decimal.value_strip (d : Decimal) (fuel : Nat) : (d.strip fuel).value = d.value := by
  induction fuel generalizing d with
  | zero => rfl
  | succ fuel ih =>
      rw [Decimal.strip]
      split_ifs with hzero
      · rw [ih]
        have hdigits : ((d.digits / 10 : Nat) : ℚ) * 10 = d.digits := by
          exact_mod_cast Nat.div_mul_cancel (Nat.dvd_of_mod_eq_zero hzero.2)
        unfold Decimal.value
        dsimp only
        rw [← hdigits, zpow_add_one₀ (by norm_num)]
        ring
      · rfl

/-- They only raise the exponent. -/
lemma Decimal.exponent_le_strip (d : Decimal) (fuel : Nat) : d.exponent ≤ (d.strip fuel).exponent := by
  induction fuel generalizing d with
  | zero => exact le_rfl
  | succ fuel ih =>
      rw [Decimal.strip]
      split_ifs
      · exact (Int.le_add_one le_rfl).trans (ih _)
      · exact le_rfl

/-! ## Basins -/

namespace Basin

/-- Whether a number lies below the upper end of a basin; a closed basin has its end. -/
def IsBelow (b : Basin) (x : ℚ) : Prop :=
  if b.closed then x ≤ b.high * 2 ^ b.exponent else x < b.high * 2 ^ b.exponent

/-- Whether a point of a grid lies in a basin. -/
def contains (b : Basin) (places : Int) (c : Nat) : Bool :=
  let up := Nat.pow 10 places.toNat
  let d := (powerOfTwoRatio 1 b.exponent).2 * Nat.pow 10 (-places).toNat
  let low := b.low * (powerOfTwoRatio 1 b.exponent).1 * up
  let high := b.high * (powerOfTwoRatio 1 b.exponent).1 * up
  if b.closed then low ≤ c * d && c * d ≤ high else low < c * d && c * d < high

/-- Zero lies below the end of a basin that is not empty. -/
lemma isBelow_zero (hhigh : 0 < b.high) : b.IsBelow 0 := by
  unfold IsBelow
  split_ifs <;> positivity

/-- A point that is found on a grid lies in the basin. -/
lemma contains_of_onGrid (h : b.onGrid places = some c) : b.contains places c = true := by
  unfold onGrid at h
  dsimp only at h
  split at h
  · cases h
    split_ifs <;> assumption
  · cases h
    assumption
  · cases h
    assumption
  · cases h

/-- The two factors of a grid make up a power of ten. -/
lemma pow_div_pow (places : Int) :
    ((Nat.pow 10 places.toNat : Nat) : ℚ) / (Nat.pow 10 (-places).toNat : Nat) = 10 ^ places := by
  rcases le_total 0 places with h | h
  · lift places to Nat using h
    simp
  · obtain ⟨k, rfl⟩ : ∃ k : Nat, places = -k := ⟨(-places).toNat, by omega⟩
    simp

/-- A point that lies in the basin lies below its end. -/
lemma isBelow_of_contains (h : b.contains places c = true) : b.IsBelow (c * 10 ^ (-places)) := by
  have hratio := cast_powerOfTwoRatio_pos 1 b.exponent
  have hup : (0 : ℚ) < (Nat.pow 10 places.toNat : Nat) := by exact_mod_cast Nat.pow_pos (by decide)
  have hdown : (0 : ℚ) < (Nat.pow 10 (-places).toNat : Nat) := by
    exact_mod_cast Nat.pow_pos (by decide)
  have hcommon := mul_pos hratio hup
  have hpoint : (c : ℚ) * 10 ^ (-places) =
      (c * ((powerOfTwoRatio 1 b.exponent).2 * Nat.pow 10 (-places).toNat) : Nat) /
        ((powerOfTwoRatio 1 b.exponent).2 * (Nat.pow 10 places.toNat : Nat)) := by
    rw [zpow_neg, ← pow_div_pow, Nat.cast_mul, Nat.cast_mul]
    field_simp
  have hend : (b.high : ℚ) * 2 ^ b.exponent =
      (b.high * (powerOfTwoRatio 1 b.exponent).1 * Nat.pow 10 places.toNat : Nat) /
        ((powerOfTwoRatio 1 b.exponent).2 * (Nat.pow 10 places.toNat : Nat)) := by
    rw [← powerOfTwoRatio_one_eq, Nat.cast_mul, Nat.cast_mul]
    field_simp
  unfold IsBelow
  unfold contains at h
  rw [hpoint, hend, div_le_div_iff_of_pos_right hcommon, div_lt_div_iff_of_pos_right hcommon,
    Nat.cast_le, Nat.cast_lt]
  split_ifs at h ⊢
  · simp only [Bool.and_eq_true, decide_eq_true_eq] at h
    exact h.2
  · simp only [Bool.and_eq_true, decide_eq_true_eq] at h
    exact h.2

/-- The decimal that the search ends with lies below the end of the basin, on one of the grids that were
searched. -/
lemma isBelow_search (hhigh : 0 < b.high) (magnitude : Int) (fuel count : Nat) :
    b.IsBelow (b.search magnitude fuel count).value ∧
      magnitude + 1 - (count + fuel) ≤ (b.search magnitude fuel count).exponent := by
  induction fuel generalizing count with
  | zero =>
      rw [search]
      refine ⟨?_, by dsimp only; omega⟩
      unfold Decimal.value
      dsimp only
      cases hgrid : b.onGrid ((count : Int) - 1 - magnitude) with
      | some c => exact isBelow_of_contains (contains_of_onGrid hgrid)
      | none =>
          rw [Option.getD_none, Nat.cast_zero, zero_mul]
          exact isBelow_zero hhigh
  | succ fuel ih =>
      rw [search]
      cases hgrid : b.onGrid ((count : Int) - 1 - magnitude) with
      | some c =>
          exact ⟨isBelow_of_contains (contains_of_onGrid hgrid), by dsimp only; omega⟩
      | none =>
          obtain ⟨hbelow, hexponent⟩ := ih (count + 1)
          exact ⟨hbelow, by push_cast at hexponent ⊢; omega⟩

end Basin

/-! ## The shortest decimal -/

/-- A quotient with a small denominator is not far below one. -/
lemma neg_le_floorLog10 {k : Nat} (hk : 0 < k) (hd : d < 10 ^ k) : -(k : Int) ≤ floorLog10 n d := by
  have hlength : (Nat.toDigits 10 (d / n)).length ≤ k :=
    (Nat.length_toDigits_le_iff (by decide) hk).2 ((Nat.div_le_self d n).trans_lt hd)
  unfold floorLog10
  dsimp only
  split_ifs <;> omega

/-- A power of ten is larger than the power of two with three times its exponent. -/
lemma powerOfTwoRatio_snd_lt {k : Nat} (hk : 0 < k) (hq : -(3 * k : Int) ≤ q) :
    (powerOfTwoRatio m q).2 < 10 ^ k := by
  unfold powerOfTwoRatio
  split_ifs
  · exact Nat.one_lt_pow hk.ne' (by decide)
  · calc 2 ^ (-q).toNat ≤ 2 ^ (3 * k) := Nat.pow_le_pow_right (by decide) (by omega)
      _ = (2 ^ 3) ^ k := Nat.pow_mul 2 3 k
      _ < 10 ^ k := Nat.pow_lt_pow_left (by decide) hk.ne'

/-- The end of the basin of a number is half a step past the number. -/
lemma Layout.high_basin (l : Layout) (m : Nat) (q : Int) :
    ((l.basin m q).high : ℚ) * 2 ^ (l.basin m q).exponent = (m + 1 / 2) * 2 ^ q := by
  have hexponent : (2 : ℚ) ^ (q - 2) = 2 ^ q / 4 := by
    rw [zpow_sub₀ two_ne_zero]
    norm_num
  unfold Layout.basin
  dsimp only
  rw [hexponent]
  push_cast
  ring

/-- The shortest decimal of a number is at most half a step past it, and less than that if the significand is
odd. -/
lemma Layout.shortest_value_le (l : Layout) (m : Nat) (q : Int) :
    (l.shortest m q).value ≤ (m + 1 / 2) * 2 ^ q ∧
      (m % 2 = 1 → (l.shortest m q).value < (m + 1 / 2) * 2 ^ q) := by
  have hbelow := (Basin.isBelow_search (b := l.basin m q) (Nat.succ_pos _)
    (floorLog10 (powerOfTwoRatio m q).1 (powerOfTwoRatio m q).2) 17 1).1
  unfold Layout.shortest
  dsimp only
  rw [Decimal.value_strip]
  unfold Basin.IsBelow at hbelow
  rw [l.high_basin] at hbelow
  split_ifs at hbelow with hclosed
  · refine ⟨hbelow, fun hodd => ?_⟩
    have heven : m % 2 = 0 := by simpa [Layout.basin] using hclosed
    omega
  · exact ⟨hbelow.le, fun _ => hbelow⟩

/-- The shortest decimal of a number has few decimal places. -/
lemma Layout.exponent_shortest {k : Nat} (hk : 0 < k) (hq : -(3 * k : Int) ≤ q) :
    -(k : Int) - 17 ≤ (l.shortest m q).exponent := by
  have hsearch := (Basin.isBelow_search (b := l.basin m q) (Nat.succ_pos _)
    (floorLog10 (powerOfTwoRatio m q).1 (powerOfTwoRatio m q).2) 17 1).2
  have hmagnitude : -(k : Int) ≤ floorLog10 (powerOfTwoRatio m q).1 (powerOfTwoRatio m q).2 :=
    neg_le_floorLog10 hk (powerOfTwoRatio_snd_lt hk hq)
  have hstrip := Decimal.exponent_le_strip ((l.basin m q).search
    (floorLog10 (powerOfTwoRatio m q).1 (powerOfTwoRatio m q).2) 17 1) 20
  unfold Layout.shortest
  dsimp only
  push_cast at hsearch
  omega

/-! ## The text of a decimal -/

/-- A text of digits, with a point before the last of them or without. -/
structure IsDecimalText (s whole fraction : List Char) : Prop where
  /-- There is no point without digits behind it. -/
  text : s = whole ∧ fraction = [] ∨ s = whole ++ '.' :: fraction
  /-- There are digits before the point. -/
  whole_ne : whole ≠ []
  /-- Everything else is a digit. -/
  digits : ∀ c ∈ whole ++ fraction, c.isDigit = true

/-- Zeros consist of digits. -/
lemma isDigit_of_mem_replicate {k : Nat} {c : Char} (h : c ∈ List.replicate k '0') : c.isDigit = true := by
  rw [List.eq_of_mem_replicate h]
  rfl

/-- The text of a decimal has as many digits behind the point as the decimal has, and its digits are worth
the decimal. -/
lemma Decimal.exists_isDecimalText (d : Decimal) :
    ∃ whole fraction, IsDecimalText (d.positional 0) whole fraction ∧
      fraction.length = (-d.exponent).toNat ∧
      (Nat.ofDigitChars 10 (whole ++ fraction) 0 : ℚ) / 10 ^ fraction.length = d.value := by
  have hdigits : ∀ c ∈ digitChars d.digits, c.isDigit = true := fun c => isDigit_of_mem_toDigits
  have hworth : Nat.ofDigitChars 10 (digitChars d.digits) 0 = d.digits := Nat.ofDigitChars_ten_toDigits
  unfold Decimal.positional Decimal.value
  dsimp only
  by_cases hexponent : 0 ≤ d.exponent
  · obtain ⟨e, he⟩ := Int.eq_ofNat_of_zero_le hexponent
    refine ⟨digitChars d.digits ++ List.replicate e '0', [], ⟨?_, ?_, ?_⟩, ?_, ?_⟩
    · simp [he]
    · simp [digitChars]
    · intro c hc
      rw [List.append_nil, List.mem_append] at hc
      exact hc.elim (hdigits c) isDigit_of_mem_replicate
    · simp [he]
    · rw [List.append_nil, Nat.ofDigitChars_append, Nat.ofDigitChars_replicate_zero, hworth, he]
      push_cast
      simp [mul_comm]
  · obtain ⟨p, hp⟩ : ∃ p : Nat, d.exponent = -p := ⟨(-d.exponent).toNat, by omega⟩
    have hp' : (-d.exponent).toNat = p := by omega
    rw [if_neg hexponent, hp']
    set padded := List.replicate (p + 1 - (digitChars d.digits).length) '0' ++ digitChars d.digits
      with hpadded
    have hlength : p + 1 ≤ padded.length := by
      rw [hpadded, List.length_append, List.length_replicate]
      omega
    have hfraction : (padded.drop (padded.length - p)).length = p := by
      rw [List.length_drop]
      omega
    refine ⟨padded.take (padded.length - p), padded.drop (padded.length - p), ⟨.inr ?_, ?_, ?_⟩,
      hfraction, ?_⟩
    · simp
    · intro hnone
      have hnone := congrArg List.length hnone
      rw [List.length_take, List.length_nil] at hnone
      omega
    · rw [List.take_append_drop]
      intro c hc
      exact (List.mem_append.1 hc).elim isDigit_of_mem_replicate (hdigits c)
    · rw [List.take_append_drop, hfraction, hpadded, Nat.ofDigitChars_append,
        Nat.ofDigitChars_replicate_zero, Nat.mul_zero, hworth, hp, zpow_neg, zpow_natCast]
      rfl

/-! ## Reading a text -/

/-- Digits are cut from what stands behind them. -/
lemma span_digits {behind : List Char} (h : ∀ c ∈ ds, c.isDigit = true)
    (hbehind : ∀ c ∈ behind.head?, c.isDigit = false) :
    (ds ++ behind).takeWhile isDigit = ds ∧ (ds ++ behind).dropWhile isDigit = behind := by
  rw [show isDigit = Char.isDigit from funext isDigit_eq, List.takeWhile_append_of_pos h,
    List.dropWhile_append_of_pos h]
  rcases behind with _ | ⟨c, rest⟩
  · simp
  · have hc : c.isDigit = false := hbehind c rfl
    simp [hc]

/-- A text that begins with a digit has no sign. -/
lemma splitSign_of_isDigit {first : Char} {rest : List Char} (h : first.isDigit = true) :
    splitSign (first :: rest) = (false, first :: rest) := by
  unfold splitSign
  split
  · next heq =>
      cases heq
      cases h
  · next heq =>
      cases heq
      cases h
  · rfl

/-- Nor is it a name. -/
lemma toLower_ne_of_isDigit {first : Char} {rest : List Char} {name : String} (h : first.isDigit = true)
    (hname : name.toList.head?.all (!·.isDigit) = true) :
    String.ofList ((first :: rest).map Char.toLower) ≠ name := by
  rintro rfl
  have hlower : first.toLower = first := by
    rw [Char.isDigit, Bool.and_eq_true, decide_eq_true_eq, decide_eq_true_eq] at h
    exact dif_neg fun hupper => absurd (UInt32.le_trans hupper.1 h.2) (by decide)
  rw [String.toList_ofList, List.map_cons, hlower, List.head?_cons, Option.all_some, h] at hname
  cases hname

/-- A text of digits is read as a decimal. -/
lemma IsDecimalText.readBinary64?_eq {s : List Char} (h : IsDecimalText s whole fraction) :
    readBinary64? s = some (decimalToBinary64 false (whole ++ fraction) (-fraction.length)) := by
  obtain ⟨first, more, hfirst⟩ := List.exists_cons_of_ne_nil h.whole_ne
  have hdigit : first.isDigit = true := h.digits first (by simp [hfirst])
  have hwhole : ∀ c ∈ whole, c.isDigit = true := fun c hc => h.digits c (List.mem_append_left _ hc)
  have hfraction : ∀ c ∈ fraction, c.isDigit = true :=
    fun c hc => h.digits c (List.mem_append_right _ hc)
  obtain ⟨rest, hs⟩ : ∃ rest, s = first :: rest := by
    rcases h.text with ⟨hs, _⟩ | hs
    · exact ⟨more, by rw [hs, hfirst]⟩
    · exact ⟨more ++ '.' :: fraction, by rw [hs, hfirst]; rfl⟩
  have hsign : splitSign s = (false, s) := by
    rw [hs]
    exact splitSign_of_isDigit hdigit
  have hname {name : String} (hname : name.toList.head?.all (!·.isDigit) = true) :
      String.ofList (s.map Char.toLower) ≠ name := by
    rw [hs]
    exact toLower_ne_of_isDigit hdigit hname
  have hinf : String.ofList (s.map Char.toLower) ≠ "inf" := hname (by decide)
  have hinfinity : String.ofList (s.map Char.toLower) ≠ "infinity" := hname (by decide)
  have hnan : String.ofList (s.map Char.toLower) ≠ "nan" := hname (by decide)
  have hne : whole.isEmpty = false := by rw [hfirst]; rfl
  have hexponent : readExponent? [] = some 0 := rfl
  have hnil : ∀ c ∈ ([] : List Char).head?, c.isDigit = false := by simp
  have hpoint : ∀ c ∈ ('.' :: fraction).head?, c.isDigit = false := by simp
  unfold readBinary64?
  rw [hsign]
  simp only [hinf, hinfinity, hnan, decide_false, Bool.or_self, Bool.false_eq_true, if_false]
  rcases h.text with ⟨hs, hnone⟩ | hs
  · obtain ⟨htake, hdrop⟩ := span_digits hwhole hnil
    rw [List.append_nil] at htake hdrop
    rw [hs, htake, hdrop, hnone]
    simp [hne, hexponent]
  · obtain ⟨htake, hdrop⟩ := span_digits hwhole hpoint
    obtain ⟨htake', hdrop'⟩ := span_digits hfraction hnil
    rw [List.append_nil] at htake' hdrop'
    rw [hs, htake, hdrop]
    simp [hne, hexponent, htake', hdrop']

/-- Zeros before other digits are worth nothing. -/
lemma ofDigitChars_dropWhile (ds : List Char) :
    Nat.ofDigitChars 10 (ds.dropWhile (· = '0')) 0 = Nat.ofDigitChars 10 ds 0 := by
  induction ds with
  | nil => rfl
  | cons c rest ih =>
      by_cases hzero : c = '0'
      · rw [List.dropWhile_cons_of_pos (by simpa using hzero), ih, hzero]
        rfl
      · rw [List.dropWhile_cons_of_neg (by simpa using hzero)]

/-- Digits that do not begin with zero are worth a power of ten. -/
lemma pow_le_ofDigitChars {c : Char} (hc : c.isDigit = true) (hzero : c ≠ '0') (rest : List Char) :
    10 ^ rest.length ≤ Nat.ofDigitChars 10 (c :: rest) 0 := by
  have hpos : 0 < c.toNat - '0'.toNat := by
    rw [Char.isDigit_iff_toNat] at hc
    have hne : c.toNat ≠ '0'.toNat := fun h => hzero (Char.toNat_inj.1 h)
    have hlow : '0'.toNat ≤ c.toNat := hc.1
    omega
  rw [Nat.ofDigitChars_cons, Nat.ofDigitChars_eq_ofDigitChars_zero]
  calc 10 ^ rest.length ≤ 10 ^ rest.length * (10 * 0 + (c.toNat - '0'.toNat)) :=
        Nat.le_mul_of_pos_right _ (by omega)
    _ ≤ _ := Nat.le_add_right _ _

/-- Digits are read as a quotient that rounds to the double-precision number, unless they are too many. -/
lemma exists_decimalToBinary64 (places : Nat) (hdigits : ∀ c ∈ ds, c.isDigit = true)
    (hplaces : places ≤ 400) (hvalue : (Nat.ofDigitChars 10 ds 0 : ℚ) / 10 ^ places < 10 ^ 400) :
    ∃ n k, 0 < k ∧ decimalToBinary64 false ds (-places) = Binary64.ofRatio false n k ∧
      (n : ℚ) / k ≤ Nat.ofDigitChars 10 ds 0 / 10 ^ places := by
  have hdigits' : ∀ c ∈ ds.dropWhile (· = '0'), c.isDigit = true :=
    fun c hc => hdigits c ((List.dropWhile_suffix _).subset hc)
  have hworth := ofDigitChars_dropWhile ds
  have hfirst := List.head?_dropWhile_not (· = '0') ds
  unfold decimalToBinary64
  dsimp only
  set kept := ds.dropWhile (· = '0') with hkept
  split_ifs with hnone hmany
  · refine ⟨0, 1, Nat.one_pos, rfl, ?_⟩
    rw [Nat.cast_zero, zero_div]
    positivity
  · -- So many digits would be worth too much.
    exfalso
    obtain ⟨c, rest, hcons⟩ : ∃ c rest, kept = c :: rest := by
      refine List.exists_cons_of_ne_nil fun hnil => hnone ?_
      simp [hnil]
    have hzero : c ≠ '0' := by
      rw [hcons] at hfirst
      simpa using hfirst
    have hlarge := pow_le_ofDigitChars (hdigits' c (by simp [hcons])) hzero rest
    rw [← hcons, hworth] at hlarge
    rw [hcons, List.length_cons] at hmany
    have hpow : 10 ^ (400 + places) ≤ 10 ^ rest.length :=
      Nat.pow_le_pow_right (by decide) (by push_cast at hmany; omega)
    rw [div_lt_iff₀ (by positivity), ← pow_add] at hvalue
    have hvalue' : Nat.ofDigitChars 10 ds 0 < 10 ^ (400 + places) := by exact_mod_cast hvalue
    omega
  · have hlength : kept.length ≤ keptDigits := by
      unfold keptDigits
      omega
    have hexponent : -(places : Int) + (kept.length - keptDigits : Nat) - 1 = -(places + 1 : Nat) := by
      omega
    have hfew : ofFirstDigits kept = 10 * Nat.ofDigitChars 10 ds 0 := by
      rw [ofFirstDigits, List.take_of_length_le hlength, List.drop_of_length_le hlength,
        ofDigits_eq hdigits', hworth]
      rfl
    rw [hexponent, hfew]
    refine ⟨_, _, ?_, rfl, ?_⟩
    · exact Nat.pow_pos (by decide)
    · rw [neg_neg, Int.toNat_natCast, Int.toNat_neg_natCast, Nat.pow_eq, Nat.pow_eq, pow_zero,
        Nat.mul_one]
      apply le_of_eq
      push_cast
      field_simp
      ring

/-! ## The text of a number -/

/-- The text of a number is read as a quotient that is at most half a step past it, and less than that if the
significand is odd. -/
theorem Binary64.exists_readBinary64?_text {x : Binary64} (hx : x.datum = .finite false m q)
    (hsmall : ((m : ℚ) + 1 / 2) * 2 ^ q < 10 ^ 400) :
    ∃ n k, 0 < k ∧ readBinary64? x.text.toList = some (Binary64.ofRatio false n k) ∧
      (n : ℚ) / k ≤ (m + 1 / 2) * 2 ^ q ∧ (m % 2 = 1 → (n : ℚ) / k < (m + 1 / 2) * 2 ^ q) := by
  have htext : x.text =
      if m = 0 then "0" else String.ofList ((Layout.double.shortest m q).positional 0) := by
    unfold Binary64.text
    rw [hx]
    simp [Datum.text]
  rw [htext]
  split_ifs with hzero
  · refine ⟨0, 1, Nat.one_pos, by decide, ?_, ?_⟩
    · rw [Nat.cast_zero, zero_div]
      positivity
    · intro hodd
      omega
  · obtain ⟨hvalue, hvalue'⟩ := Layout.double.shortest_value_le m q
    obtain ⟨whole, fraction, hdigits, hplaces, hworth⟩ :=
      (Layout.double.shortest m q).exists_isDecimalText
    have hexponent : -375 ≤ (Layout.double.shortest m q).exponent := by
      have hleast : (-1074 : Int) ≤ q := (Layout.read_eq_finite (l := .double) hx).2.1
      exact Layout.exponent_shortest (k := 358) (by decide) (by omega)
    obtain ⟨n, k, hk, hread, hle⟩ := exists_decimalToBinary64 fraction.length hdigits.digits
      (by omega) (by rw [hworth]; exact hvalue.trans_lt hsmall)
    rw [hworth] at hle
    refine ⟨n, k, hk, ?_, hle.trans hvalue, fun hodd => hle.trans_lt (hvalue' hodd)⟩
    rw [← hread, String.toList_ofList, hdigits.readBinary64?_eq]

end ColumnWire.Number
