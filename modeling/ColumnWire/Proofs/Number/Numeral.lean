import Mathlib.Tactic.Common
import ColumnWire.Number.Numeral

/-!
# Numerals and back

The decimal digits of a natural are read as that natural, below every bound that it is below itself
(`readNatural?_toDigits`). What digits spell is the library's `Nat.ofDigitChars` (`ofDigits_eq`).
-/

namespace ColumnWire.Number

variable {c : Char} {ds : List Char} {bound n : Nat}

/-- A digit of the library is one here. -/
lemma digitValue?_of_isDigit (h : c.isDigit = true) : digitValue? c = some (c.toNat - '0'.toNat) := by
  rw [Char.isDigit, Bool.and_eq_true, decide_eq_true_eq, decide_eq_true_eq] at h
  exact if_pos h

/-- No other character is. -/
lemma isDigit_eq (c : Char) : isDigit c = c.isDigit := by
  cases hc : c.isDigit with
  | true => simp [isDigit, digitValue?_of_isDigit hc]
  | false =>
      have hnot : ¬ ('0' ≤ c ∧ c ≤ '9') := fun h => by
        have hdigit : c.isDigit = true := by
          rw [Char.isDigit, Bool.and_eq_true, decide_eq_true_eq, decide_eq_true_eq]
          exact h
        rw [hc] at hdigit
        cases hdigit
      rw [isDigit, digitValue?, if_neg hnot]
      rfl

/-- What digits spell is what the library says. -/
lemma ofDigits_eq (h : ∀ c ∈ ds, c.isDigit = true) : ofDigits ds = Nat.ofDigitChars 10 ds 0 := by
  have hfold (n : Nat) : ds.foldl (fun n c => 10 * n + (digitValue? c).getD 0) n =
      Nat.ofDigitChars 10 ds n := by
    induction ds generalizing n with
    | nil => simp
    | cons c rest ih =>
        rw [List.foldl_cons, Nat.ofDigitChars_cons, digitValue?_of_isDigit (h c List.mem_cons_self),
          ih fun c hc => h c (List.mem_cons_of_mem _ hc)]
        rfl
  exact hfold 0

/-- Digits are appended while the result is below the bound. -/
lemma foldlM_appendDigit? (h : ∀ c ∈ ds, c.isDigit = true)
    (hbound : Nat.ofDigitChars 10 ds n < bound) :
    ds.foldlM (appendDigit? bound) n = some (Nat.ofDigitChars 10 ds n) := by
  induction ds generalizing n with
  | nil => simp
  | cons c rest ih =>
      rw [Nat.ofDigitChars_cons] at hbound ⊢
      have hle : 10 * n + (c.toNat - '0'.toNat) < bound := by
        rw [Nat.ofDigitChars_eq_ofDigitChars_zero] at hbound
        have hpos : 0 < 10 ^ rest.length := Nat.pow_pos (by decide)
        have hgrow := Nat.le_mul_of_pos_left (10 * n + (c.toNat - '0'.toNat)) hpos
        omega
      have hstep : appendDigit? bound n c = some (10 * n + (c.toNat - '0'.toNat)) := by
        rw [appendDigit?, digitValue?_of_isDigit (h c List.mem_cons_self)]
        exact if_pos hle
      rw [List.foldlM_cons, hstep]
      exact ih (fun c hc => h c (List.mem_cons_of_mem _ hc)) hbound

/-- The decimal digits of a natural are digits. -/
lemma isDigit_of_mem_toDigits (h : c ∈ Nat.toDigits 10 n) : c.isDigit = true :=
  Nat.isDigit_of_mem_toDigits (by decide) (by decide) h

/-- A natural comes back from its digits, below every bound that it is below itself. -/
lemma readNatural?_toDigits (h : n < bound) : readNatural? bound (Nat.toDigits 10 n) = some n := by
  have hdigits : ∀ c ∈ Nat.toDigits 10 n, c.isDigit = true := fun _ => isDigit_of_mem_toDigits
  have hread : (Nat.toDigits 10 n).foldlM (appendDigit? bound) 0 = _ :=
    foldlM_appendDigit? hdigits (by simpa using h)
  rw [Nat.ofDigitChars_ten_toDigits] at hread
  unfold readNatural?
  split
  · next rest heq =>
      rw [heq] at hdigits
      exact absurd (hdigits '+' List.mem_cons_self) (by decide)
  · simp [hread]

end ColumnWire.Number
