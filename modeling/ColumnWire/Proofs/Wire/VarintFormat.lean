import Mathlib.Algebra.BigOperators.Ring.Finset
import Mathlib.Data.Nat.Bitwise
import Mathlib.Tactic.Ring
import ColumnWire.Proofs.Wire.Shortest

/-!
# The format of varints

What the bytes of a number look like, said of the single bits: the first `n` bytes spell `m`
(`Varint.Spelling`) when each but the last has its high bit set and their other bits, seven from each byte,
are the digits of `m` to the base 128, the lowest first.

The groups that a number is taken from (`Varint.AreGroups`) are just that (`AreGroups.spelling`,
`Spelling.areGroups`); both directions go byte by byte along `spelling_one_iff` and `spelling_succ_iff`.
How many groups are written follows from the number of bits (`Varint.groups_length`). Main statement:
`Varint.peek_iff_spelling`.
-/

namespace ColumnWire.Wire.Varint

open Decoder

/-! ## Single bytes -/

/-- The seven bits of a byte that belong to the number. -/
def payload (b : UInt8) : Nat :=
  (b &&& 0x7F).toNat

/-- The high bit of the byte is set: another byte follows. -/
def HasMore (b : UInt8) : Prop :=
  b &&& 0x80 ≠ 0

/-- The seven low bits are the remainder by 128. -/
lemma payload_eq (b : UInt8) : payload b = b.toNat % 128 := by
  rw [payload, UInt8.toNat_and]
  exact Nat.and_two_pow_sub_one_eq_mod _ 7

/-- The high bit is set from 128 on. -/
lemma hasMore_iff {b : UInt8} : HasMore b ↔ ¬ b < 128 := by
  have hlt := b.toNat_lt
  have hand : (b &&& 0x80).toNat = (b.toNat.testBit 7).toNat * 2 ^ 7 := by
    rw [UInt8.toNat_and]
    exact Nat.and_two_pow _ 7
  have htest : b.toNat.testBit 7 = decide (128 ≤ b.toNat) := by
    rw [Nat.testBit_eq_decide_div_mod_eq, decide_eq_decide]
    omega
  rw [HasMore, ne_eq, ← UInt8.toNat_inj, hand, htest, UInt8.lt_iff_toNat_lt]
  change ¬ (decide (128 ≤ b.toNat)).toNat * 2 ^ 7 = 0 ↔ ¬ b.toNat < 128
  by_cases h : 128 ≤ b.toNat
  · simp [h]
  · simp [h, Nat.lt_of_not_le h]

/-! ## Spellings -/

/-- The first `n` of the bytes spell a number. -/
structure Spelling (p : Bytes) (n m : Nat) : Prop where
  /-- There is a last byte. -/
  pos : 0 < n
  /-- The bytes are there. -/
  le_length : n ≤ p.length
  /-- The high bit is set in all bytes before the last. -/
  more : ∀ i < n - 1, HasMore (p.getD i 0)
  /-- It is not set in the last. -/
  last : ¬ HasMore (p.getD (n - 1) 0)
  /-- Each byte counts 128 times as much as the one before. -/
  sum : ∑ i ∈ Finset.range n, payload (p.getD i 0) * Nat.pow 128 i = m

variable {p : Bytes} {b : UInt8} {n m more : Nat}

/-- One byte spells its payload. -/
lemma spelling_one_iff : Spelling (b :: p) 1 m ↔ ¬ HasMore b ∧ m = payload b := by
  constructor
  · intro h
    have hsum := h.sum
    rw [Finset.sum_range_one] at hsum
    exact ⟨h.last, hsum.symm.trans (Nat.mul_one _)⟩
  · rintro ⟨hb, rfl⟩
    refine ⟨Nat.one_pos, Nat.succ_le_succ (Nat.zero_le _), fun i hi => absurd hi (Nat.not_lt_zero i), hb, ?_⟩
    rw [Finset.sum_range_one]
    exact Nat.mul_one _

/-- The sum of some bytes is the payload of the first and 128 times the sum of the others. -/
lemma sum_payload_succ (b : UInt8) (p : Bytes) (n : Nat) :
    ∑ i ∈ Finset.range (n + 1), payload ((b :: p).getD i 0) * Nat.pow 128 i =
      payload b + 128 * ∑ i ∈ Finset.range n, payload (p.getD i 0) * Nat.pow 128 i := by
  rw [Finset.sum_range_succ', Finset.mul_sum, Nat.add_comm]
  congr 1
  · exact Nat.mul_one _
  · refine Finset.sum_congr rfl fun i _ => ?_
    have hpow : Nat.pow 128 (i + 1) = Nat.pow 128 i * 128 := rfl
    rw [List.getD_cons_succ, hpow]
    ring

/-- A byte with others behind it spells its payload and 128 times what they spell. -/
lemma spelling_succ_iff (hn : 0 < n) :
    Spelling (b :: p) (n + 1) m ↔
      HasMore b ∧ ∃ m', m = payload b + 128 * m' ∧ Spelling p n m' := by
  obtain ⟨k, rfl⟩ : ∃ k, n = k + 1 := ⟨n - 1, by omega⟩
  constructor
  · intro h
    refine ⟨h.more 0 (Nat.succ_pos k), _, ?_, hn, Nat.le_of_succ_le_succ h.le_length, fun i hi => ?_,
      h.last, rfl⟩
    · rw [← sum_payload_succ, h.sum]
    · exact h.more (i + 1) (Nat.succ_lt_succ hi)
  · rintro ⟨hb, m', rfl, h⟩
    refine ⟨Nat.succ_pos _, Nat.succ_le_succ h.le_length, fun i hi => ?_, h.last, ?_⟩
    · cases i with
      | zero => exact hb
      | succ i => exact h.more i (Nat.lt_of_succ_lt_succ hi)
    · rw [sum_payload_succ, h.sum]

/-- The groups of a number spell it, whatever follows. -/
lemma AreGroups.spelling {u : Bytes} (h : AreGroups more m u) (rest : Bytes) :
    u.length ≤ more + 1 ∧ Spelling (u ++ rest) u.length m := by
  induction h with
  | @last more b hb _ =>
      refine ⟨Nat.succ_le_succ (Nat.zero_le _), spelling_one_iff.2 ⟨?_, (payload_eq b).symm⟩⟩
      exact fun hmore => hasMore_iff.1 hmore hb
  | @cons more m b u hb hu ih =>
      refine ⟨Nat.succ_le_succ ih.1, (spelling_succ_iff hu.length_pos).2 ⟨hasMore_iff.2 hb, m, ?_, ih.2⟩⟩
      rw [payload_eq]

/-- The bytes that spell a number are its groups, if they are few enough and the number is. -/
lemma Spelling.areGroups (h : Spelling p n m) (hn : n ≤ more + 1) (hm : m < 2 * Nat.pow 128 more) :
    AreGroups more m (p.take n) := by
  induction n generalizing p m more with
  | zero => exact absurd h.pos (Nat.lt_irrefl 0)
  | succ n ih =>
      cases p with
      | nil => exact absurd h.le_length (Nat.not_succ_le_zero n)
      | cons b p =>
          rcases Nat.eq_zero_or_pos n with rfl | hpos
          · obtain ⟨hb, rfl⟩ := spelling_one_iff.1 h
            have hlast : b < 128 := Classical.not_not.1 fun hb' => hb (hasMore_iff.2 hb')
            rw [payload_eq] at hm ⊢
            refine .last hlast ?_
            rintro rfl
            exact Nat.le_of_lt_succ hm
          · obtain ⟨hb, m', rfl, hrest⟩ := (spelling_succ_iff hpos).1 h
            obtain ⟨j, rfl⟩ : ∃ j, more = j + 1 := ⟨more - 1, by omega⟩
            have hpow : Nat.pow 128 (j + 1) = Nat.pow 128 j * 128 := rfl
            rw [payload_eq, List.take_succ_cons]
            exact .cons (hasMore_iff.1 hb) (ih hrest (by omega) (by omega))

/-! ## The length of what is written -/

/-- A number is written in one group for each seven bits that have begun. -/
lemma groups_length (h : n < Nat.pow 128 (more + 1)) :
    (groups more n).length = ((max n 1).log2 + 7) / 7 := by
  have hsmall {k : Nat} (hk : k < 128) : ((max k 1).log2 + 7) / 7 = 1 := by
    have hlog : (max k 1).log2 < 7 := (Nat.log2_lt (by omega)).2 (by omega)
    omega
  induction more generalizing n with
  | zero => exact (hsmall h).symm
  | succ more ih =>
      by_cases hn : n < 128
      · rw [groups_of_lt _ hn, hsmall hn]
        rfl
      · have hpow : Nat.pow 128 (more + 1 + 1) = Nat.pow 128 (more + 1) * 128 := rfl
        have hlog : n.log2 = (n / 128).log2 + 7 := by
          obtain ⟨hlower, hupper⟩ := (Nat.log2_eq_iff (n := n / 128) (by omega)).1 rfl
          rw [Nat.log2_eq_iff (by omega)]
          constructor
          · rw [Nat.pow_add]; omega
          · rw [show (n / 128).log2 + 7 + 1 = (n / 128).log2 + 1 + 7 by omega, Nat.pow_add]; omega
        have hmax : max n 1 = n := by omega
        have hmax' : max (n / 128) 1 = n / 128 := by omega
        rw [groups_of_le _ (by omega), List.length_cons, ih (by omega), hmax, hmax', hlog]
        omega

/-- The writer makes as many bytes as its length says, one at least and ten at most. -/
lemma encode_length (v : UInt64) :
    (encode v).length = length v ∧ 1 ≤ length v ∧ length v ≤ maxLength := by
  have hv : v.toNat < Nat.pow 128 10 := Nat.lt_trans v.toNat_lt (by decide)
  have hlength : (encode v).length = length v := groups_length hv
  rw [← hlength]
  exact ⟨rfl, List.length_pos_iff.2 (encode_ne_nil v), groups_length_le (by decide) hv⟩

/-! ## Looking -/

/-- A look from any group on misses bytes exactly if all bytes have others behind them and are too few. -/
lemma peekFrom_eq_short_iff {index acc : Nat} :
    peekFrom index acc p = .short ↔ index + p.length < maxLength ∧ ∀ b ∈ p, HasMore b := by
  induction p generalizing index acc with
  | nil =>
      rw [peekFrom]
      split <;> simp_all
  | cons b rest ih =>
      have hmax : maxLength = 10 := rfl
      rw [peekFrom, List.length_cons, List.forall_mem_cons, hasMore_iff]
      dsimp only
      by_cases hindex : maxLength ≤ index
      · rw [if_pos hindex]
        exact iff_of_false (by simp) fun h => by omega
      rw [if_neg hindex]
      by_cases hover : index = maxLength - 1 ∧ 1 < b.toNat % 128
      · rw [if_pos hover]
        exact iff_of_false (by simp) fun h => by omega
      rw [if_neg hover]
      by_cases hb : b < 128
      · rw [if_pos hb]
        exact iff_of_false (by simp) fun h => h.2.1 hb
      · rw [if_neg hb, ih]
        constructor
        · rintro ⟨hlength, hmore⟩
          exact ⟨by omega, hb, hmore⟩
        · rintro ⟨hlength, -, hmore⟩
          exact ⟨by omega, hmore⟩

/-- A look finds the number that at most ten bytes spell. -/
lemma peek_eq_found_iff_spelling {v : UInt64} :
    peek p = .found v n ↔ n ≤ maxLength ∧ Spelling p n v.toNat := by
  rw [peek_eq_found_iff, decoder_eq_ok_iff]
  constructor
  · rintro ⟨hn, u, hp, hu⟩
    have hcount := congrArg List.length hp
    rw [List.length_append, List.length_drop] at hcount
    obtain ⟨hle, hspells⟩ := hu.spelling (p.drop n)
    rw [← hp, show u.length = n by omega] at hspells
    exact ⟨by rw [show n = u.length by omega]; exact hle, hspells⟩
  · rintro ⟨hn, hspells⟩
    exact ⟨hspells.le_length, p.take n, (List.take_append_drop n p).symm,
      hspells.areGroups hn v.toNat_lt⟩

/-- A look at some bytes finds a number of `n` bytes exactly if the first `n`, ten at most, spell it and it
is a word; it misses bytes exactly if there are fewer than ten and each has the high bit set; it meets too
many bytes or bits in all other cases. What is written for a number has the length that is told for it,
from one byte to ten; the number is found in it whatever follows, and in no bytes that are fewer. -/
theorem peek_iff_spelling (p : Bytes) :
    (∀ v n, peek p = .found v n ↔ n ≤ 10 ∧ Spelling p n v.toNat) ∧
    (peek p = .short ↔ p.length < 10 ∧ ∀ b ∈ p, HasMore b) ∧
    (peek p = .overflow ↔
      (¬ ∃ (v : UInt64) (n : Nat), n ≤ 10 ∧ Spelling p n v.toNat) ∧
        ¬ (p.length < 10 ∧ ∀ b ∈ p, HasMore b)) ∧
    ∀ v : UInt64, (encode v).length = length v ∧ 1 ≤ length v ∧ length v ≤ 10 ∧
      (∀ rest, peek (encode v ++ rest) = .found v (length v)) ∧
      ∀ w n, peek w = .found v n → length v ≤ w.length := by
  have hfound (v n) : peek p = .found v n ↔ n ≤ 10 ∧ Spelling p n v.toNat := peek_eq_found_iff_spelling
  have hshort : peek p = .short ↔ p.length < 10 ∧ ∀ b ∈ p, HasMore b := by
    rw [peek, peekFrom_eq_short_iff, Nat.zero_add]
    rfl
  refine ⟨hfound, hshort, ?_, fun v => ?_⟩
  · simp only [← hfound, ← hshort]
    cases peek p <;> simp
  · obtain ⟨hlength, hpos, hmax⟩ := encode_length v
    refine ⟨hlength, hpos, hmax, fun rest => ?_, fun w n h => ?_⟩
    · rw [peek_eq_found_iff, ← hlength, List.drop_left, List.length_append]
      exact ⟨Nat.le_add_right _ _, encode_spells v rest⟩
    · obtain ⟨hn, hv⟩ := peek_eq_found_iff.1 h
      obtain ⟨u, hw, hle, -⟩ := decoder_eq_ok hv
      have hcount := congrArg List.length hw
      rw [List.length_append, List.length_drop] at hcount
      omega

/-- Three bytes spell 300 where two would do; the fourth is not looked at. -/
theorem peek_iff_spelling_threeHundred :
    peek [0xAC, 0x82, 0x00, 0xFF] = .found 300 3 ∧ Spelling [0xAC, 0x82, 0x00, 0xFF] 3 300 ∧
      length 300 ≤ 4 := by
  have hfound : peek [0xAC, 0x82, 0x00, 0xFF] = .found 300 3 := by rfl
  obtain ⟨hiff, -, -, hwritten⟩ := peek_iff_spelling [0xAC, 0x82, 0x00, 0xFF]
  exact ⟨hfound, ((hiff 300 3).1 hfound).2, (hwritten 300).2.2.2.2 _ _ hfound⟩

end ColumnWire.Wire.Varint
