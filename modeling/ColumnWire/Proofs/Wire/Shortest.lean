import Mathlib.Tactic.Common
import ColumnWire.Proofs.Wire.RoundTrip

/-!
# Nothing spells a field in fewer bytes than its writer

A number may be spelled with groups that add nothing, and so may the length of a text. The writers never
do: whatever bytes a field was taken from, they are no fewer than those that are written for it
(`Varint.encode_length_le`, `TextField.encode_length_le`). Numbers with a fraction have one spelling
length (`binary32_length`, `binary64_length`).

The reader of numbers is inverted once, in `Varint.takeGroups_eq_ok`: what it takes are the groups of a
number (`Varint.AreGroups`). With `k` of them the number is below `128 ^ k`, and the writer needs no more
than `k` groups for such a number. If the last of them adds something (`Varint.IsShortest`), they are the
groups that the writer makes: a number has one shortest spelling, the written one
(`Varint.isShortest_iff`).
-/

namespace ColumnWire.Wire

open ColumnWire.Number Decoder

/-! ## Numbers -/

namespace Varint

/-- A number below `128 ^ k` is written in `k` groups at most. -/
lemma groups_length_le {more n k : Nat} (hk : 0 < k) (h : n < Nat.pow 128 k) :
    (groups more n).length ≤ k := by
  induction more generalizing n k with
  | zero => exact hk
  | succ more ih =>
      rw [groups]
      split
      · exact hk
      · rename_i hlarge
        obtain ⟨j, rfl⟩ : ∃ j, k = j + 1 := ⟨k - 1, by omega⟩
        have hpow : Nat.pow 128 (j + 1) = Nat.pow 128 j * 128 := rfl
        have hj : 0 < j := by
          rcases Nat.eq_zero_or_pos j with rfl | hj
          · exact absurd h hlarge
          · exact hj
        have hrest : n / 128 < Nat.pow 128 j := by omega
        exact Nat.succ_le_succ (ih hj hrest)

/-- A number below `128` has one group. -/
lemma groups_of_lt (more : Nat) {n : Nat} (h : n < 128) : groups more n = [UInt8.ofNat n] := by
  cases more with
  | zero => rfl
  | succ more => rw [groups, if_pos h]

/-- A number from `128` on has a group for its lowest seven bits, and others. -/
lemma groups_of_le (more : Nat) {n : Nat} (h : 128 ≤ n) :
    groups (more + 1) n = UInt8.ofNat (n % 128 + 128) :: groups more (n / 128) := by
  rw [groups, if_neg (by omega)]

/-- The byte of a last group is its number. -/
lemma last_group {b : UInt8} (h : b < 128) :
    UInt8.ofNat (b.toNat % 128) = b ∧ (b ≠ 0 → 0 < b.toNat % 128) := by
  have hlt : b.toNat < 128 := UInt8.lt_iff_toNat_lt.1 h
  rw [Nat.mod_eq_of_lt hlt]
  refine ⟨UInt8.ofNat_toNat, fun hb => Nat.pos_of_ne_zero fun hzero => hb ?_⟩
  exact UInt8.toNat_inj.1 hzero

/-- The byte of a group behind which others come is its number with the high bit. -/
lemma more_group {b : UInt8} {m : Nat} (h : ¬ b < 128) :
    UInt8.ofNat ((b.toNat % 128 + 128 * m) % 128 + 128) = b := by
  have hle : 128 ≤ b.toNat := Nat.le_of_not_lt fun hlt => h (UInt8.lt_iff_toNat_lt.2 hlt)
  have hlt := b.toNat_lt
  rw [show (b.toNat % 128 + 128 * m) % 128 + 128 = b.toNat by omega]
  exact UInt8.ofNat_toNat

/-- The bytes spell a number with no group too many: there is one group, or the last one is not zero. -/
def IsShortest (w : Bytes) : Prop :=
  1 < w.length → w.getLast? ≠ some 0

instance (w : Bytes) : Decidable (IsShortest w) :=
  inferInstanceAs (Decidable (1 < w.length → w.getLast? ≠ some 0))

/-- Bytes as the groups of a number, of which at most `more` stand before the last. -/
inductive AreGroups : (more m : Nat) → Bytes → Prop where
  /-- The last group. The tenth one has one bit. -/
  | last {more : Nat} {b : UInt8} (hb : b < 128) (hfits : more = 0 → b.toNat % 128 ≤ 1) :
      AreGroups more (b.toNat % 128) [b]
  /-- A group for the lowest seven bits, and those for the others. -/
  | cons {more m : Nat} {b : UInt8} {u : Bytes} (hb : ¬ b < 128) (hu : AreGroups more m u) :
      AreGroups (more + 1) (b.toNat % 128 + 128 * m) (b :: u)

namespace AreGroups

variable {more m : Nat} {b : UInt8} {u : Bytes}

/-- There is a group. -/
lemma length_pos (h : AreGroups more m u) : 0 < u.length := by
  cases h <;> exact Nat.succ_pos _

/-- The last group is not the one in front of others. -/
lemma getLast?_cons (h : AreGroups more m u) : (b :: u).getLast? = u.getLast? := by
  cases h <;> rfl

/-- A group has seven bits. -/
lemma lt_pow_length (h : AreGroups more m u) : m < Nat.pow 128 u.length := by
  induction h with
  | last hb => exact Nat.mod_lt _ (by decide)
  | @cons more m b u hb hu ih =>
      have hpow : Nat.pow 128 (b :: u).length = Nat.pow 128 u.length * 128 := rfl
      omega

/-- Ten groups have 64 bits. -/
lemma lt_two_mul_pow (h : AreGroups more m u) : m < 2 * Nat.pow 128 more := by
  induction h with
  | @last more b hb hfits =>
      rcases Nat.eq_zero_or_pos more with rfl | hmore
      · exact Nat.lt_succ_of_le (hfits rfl)
      · obtain ⟨j, rfl⟩ : ∃ j, more = j + 1 := ⟨more - 1, by omega⟩
        have hpow : Nat.pow 128 (j + 1) = Nat.pow 128 j * 128 := rfl
        have hj : 0 < Nat.pow 128 j := Nat.pow_pos (by decide)
        omega
  | @cons more m b u hb hu ih =>
      have hpow : Nat.pow 128 (more + 1) = Nat.pow 128 more * 128 := rfl
      omega

/-- A last group of zero adds nothing. -/
lemma lt_pow_of_zero (h : AreGroups more m u) (hzero : u.getLast? = some 0) :
    m < Nat.pow 128 (u.length - 1) := by
  induction h with
  | @last more b hb hfits =>
      obtain rfl : b = 0 := by simpa using hzero
      exact Nat.one_pos
  | @cons more m b u hb hu ih =>
      have hm := ih (hu.getLast?_cons ▸ hzero)
      obtain ⟨k, hk⟩ : ∃ k, u.length = k + 1 := ⟨u.length - 1, by have hpos := hu.length_pos; omega⟩
      have hpow : Nat.pow 128 (k + 1) = Nat.pow 128 k * 128 := rfl
      rw [hk, Nat.add_sub_cancel] at hm
      rw [List.length_cons, Nat.add_sub_cancel, hk]
      omega

/-- Any other last group adds something. -/
lemma pos_of_ne_zero (h : AreGroups more m u) (hzero : u.getLast? ≠ some 0) : 0 < m := by
  induction h with
  | last hb => exact (last_group hb).2 fun hb' => hzero (by rw [hb']; rfl)
  | cons hb hu ih =>
      have hm := ih (hu.getLast?_cons ▸ hzero)
      omega

/-- Groups of which none is too many are the written ones. -/
lemma eq_groups (h : AreGroups more m u) (hshort : IsShortest u) : u = groups more m := by
  induction h with
  | @last more b hb =>
      rw [groups_of_lt more (Nat.mod_lt _ (by decide)), (last_group hb).1]
  | @cons more m b u hb hu ih =>
      -- The last group is not the first one, so it is not zero, and neither is the rest.
      have hlast : u.getLast? ≠ some 0 := by
        rw [← hu.getLast?_cons (b := b)]
        exact hshort (Nat.succ_lt_succ hu.length_pos)
      have hm := hu.pos_of_ne_zero hlast
      have hrest : (b.toNat % 128 + 128 * m) / 128 = m := by omega
      rw [groups_of_le more (by omega), more_group hb, hrest, ← ih fun _ => hlast]

end AreGroups

/-- What was taken when a number was: the groups of a number, with the weight that they begin with. -/
lemma takeGroups_eq_ok {left weight acc : Nat} {p rest : Bytes} {v : UInt64}
    (h : takeGroups left weight acc p = .ok v rest) :
    ∃ more m u, left = more + 1 ∧ p = u ++ rest ∧ v = UInt64.ofNat (acc + m * weight) ∧
      AreGroups more m u := by
  induction left generalizing weight acc p with
  | zero => cases h
  | succ left ih =>
      cases p with
      | nil => cases h
      | cons b p =>
          rw [takeGroups_cons] at h
          split at h
          · cases h
          rename_i hfits
          split at h
          · rename_i hb
            cases h
            exact ⟨left, b.toNat % 128, [b], rfl, rfl, rfl, .last hb (by omega)⟩
          · rename_i hb
            obtain ⟨more, m, u, rfl, rfl, hv, hu⟩ := ih h
            refine ⟨more + 1, b.toNat % 128 + 128 * m, b :: u, rfl, rfl, ?_, .cons hb hu⟩
            rw [hv, add_group]

/-- The groups of a number are taken, with the weight that they begin with. -/
lemma AreGroups.takeGroups {more m : Nat} {u : Bytes} (h : AreGroups more m u) (weight acc : Nat)
    (rest : Bytes) :
    takeGroups (more + 1) weight acc (u ++ rest) = .ok (UInt64.ofNat (acc + m * weight)) rest := by
  induction h generalizing weight acc with
  | last hb hfits =>
      rw [List.singleton_append, takeGroups_cons, if_neg (by omega), if_pos hb]
  | @cons more m b u hb hu ih =>
      rw [List.cons_append, takeGroups_cons, if_neg (by omega), if_neg hb, ih, add_group]

/-- A number is taken exactly from its groups, of which there are ten at most. -/
lemma decoder_eq_ok_iff {p rest : Bytes} {v : UInt64} :
    decoder p = .ok v rest ↔ ∃ u, p = u ++ rest ∧ AreGroups 9 v.toNat u := by
  constructor
  · intro h
    obtain ⟨more, m, u, hmore, hp, hv, hu⟩ := takeGroups_eq_ok h
    obtain rfl : more = 9 := (Nat.succ.inj hmore).symm
    have hm : v.toNat = m := by
      rw [hv, Nat.zero_add, Nat.mul_one]
      exact UInt64.toNat_ofNat_of_lt' hu.lt_two_mul_pow
    exact ⟨u, hp, hm.symm ▸ hu⟩
  · rintro ⟨u, rfl, hu⟩
    have htaken := hu.takeGroups 1 0 rest
    rwa [Nat.zero_add, Nat.mul_one, UInt64.ofNat_toNat] at htaken

/-- What was taken when a number was: bytes no fewer than those that are written for it, just those if no
group is too many, and else more of them. -/
lemma decoder_eq_ok {p rest : Bytes} {v : UInt64} (h : decoder p = .ok v rest) :
    ∃ u, p = u ++ rest ∧ (encode v).length ≤ u.length ∧ (IsShortest u → u = encode v) ∧
      (¬ IsShortest u → (encode v).length < u.length) := by
  obtain ⟨u, hp, hu⟩ := decoder_eq_ok_iff.1 h
  refine ⟨u, hp, groups_length_le hu.length_pos hu.lt_pow_length, hu.eq_groups, fun hlong => ?_⟩
  obtain ⟨hmany, hzero⟩ : 1 < u.length ∧ u.getLast? = some 0 := by
    unfold IsShortest at hlong
    simpa using hlong
  have hfewer : (encode v).length ≤ u.length - 1 :=
    groups_length_le (by omega) (hu.lt_pow_of_zero hzero)
  omega

/-- Nothing spells a number in fewer bytes than its writer. -/
lemma encode_length_le {w : Bytes} {v : UInt64} (h : decoder.Spells w v) :
    (encode v).length ≤ w.length := by
  obtain ⟨u, hu, hlength, -⟩ := decoder_eq_ok (h [])
  rwa [List.append_cancel_right hu]

/-- A spelling has no group too many exactly when no spelling of the same number has fewer bytes, and then
it is the written one. -/
theorem isShortest_iff {w : Bytes} {v : UInt64} (h : decoder.Spells w v) :
    (IsShortest w ↔ ∀ w', decoder.Spells w' v → w.length ≤ w'.length) ∧
      (IsShortest w → w = encode v) := by
  obtain ⟨u, hu, -, hwritten, hlonger⟩ := decoder_eq_ok (h [])
  obtain rfl := List.append_cancel_right hu
  refine ⟨⟨fun hw w' hw' => ?_, fun hw => ?_⟩, hwritten⟩
  · rw [hwritten hw]
    exact encode_length_le hw'
  · by_contra hnot
    exact absurd (hw _ (encode_spells v)) (Nat.not_le_of_lt (hlonger hnot))

/-- A number is spelled by a byte or more. -/
lemma length_pos_of_spells {w : Bytes} {v : UInt64} (h : decoder.Spells w v) : 1 ≤ w.length :=
  Nat.le_trans (List.length_pos_iff.2 (encode_ne_nil v)) (encode_length_le h)

end Varint

/-! ## Texts -/

/-- Bytes that are taken were there, as many as were asked for. -/
lemma Decoder.take_eq_ok {n : Nat} {p w rest : Bytes} (h : take n p = .ok w rest) :
    p = w ++ rest ∧ w.length = n := by
  unfold take at h
  dsimp only at h
  split at h
  · cases h
  · rename_i hlength
    cases h
    have hle := List.length_take_le n p
    exact ⟨(List.take_append_drop n p).symm, by omega⟩

/-- The text that bytes spell has these bytes. -/
lemma utf8_of_ofUtf8? {w : Bytes} {s : String} (h : ofUtf8? w = some s) : utf8 s = w := by
  unfold ofUtf8? String.fromUTF8? at h
  split at h <;> cases h
  rfl

/-- Nothing spells a text in fewer bytes than its writer, and its length is a word. -/
lemma TextField.encode_length_le {w : Bytes} {s : String} (h : TextField.decoder.Spells w s) :
    (TextField.encode s).length ≤ w.length ∧ (utf8 s).length < UInt64.size := by
  obtain ⟨raw, left, hraw, hs⟩ := bind_eq_ok.1 (h [])
  obtain ⟨n, left', hn, htake⟩ := bind_eq_ok.1 hraw
  obtain ⟨u, hu, hlength, -⟩ := Varint.decoder_eq_ok hn
  obtain ⟨rfl, hcount⟩ := take_eq_ok htake
  cases htext : ofUtf8? raw with
  | none =>
      rw [htext] at hs
      cases hs
  | some s' =>
      rw [htext] at hs
      cases hs
      have hutf8 := utf8_of_ofUtf8? htext
      have hword : UInt64.ofNat raw.length = n := by rw [hcount, UInt64.ofNat_toNat]
      rw [List.append_nil, List.append_nil] at hu
      rw [TextField.encode, BinaryField.encode, hutf8, hword, hu, List.length_append,
        List.length_append]
      exact ⟨by omega, by rw [hcount]; exact n.toNat_lt⟩

/-! ## Numbers with a fraction -/

/-- A single-precision number is taken from four bytes. -/
lemma binary32_length {w : Bytes} {x : Binary32} (h : binary32.Spells w x) : w.length = 4 := by
  obtain ⟨raw, left, hraw, hx⟩ := bind_eq_ok.1 (h [])
  obtain ⟨hw, hlength⟩ := take_eq_ok hraw
  cases hx
  rwa [List.append_cancel_right hw]

/-- A double-precision number is taken from eight bytes. -/
lemma binary64_length {w : Bytes} {x : Binary64} (h : binary64.Spells w x) : w.length = 8 := by
  obtain ⟨raw, left, hraw, hx⟩ := bind_eq_ok.1 (h [])
  obtain ⟨hw, hlength⟩ := take_eq_ok hraw
  cases hx
  rwa [List.append_cancel_right hw]

end ColumnWire.Wire
