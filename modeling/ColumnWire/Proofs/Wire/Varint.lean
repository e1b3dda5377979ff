import Mathlib.Tactic.Common
import ColumnWire.Proofs.Wire.PrefixStable

/-!
# Varints

What the two readers of varints take and what the writer writes. The steps of the reader that takes
byte after byte are stated as equations (`takeGroups_nil`, `takeGroups_cons`); from them follow

* `encode_spells`: the shortest spelling of a number spells it;
* `peek_tells`: looking at the front of a buffer tells what taking a number from it answers. So the two
  readers agree on all bytes: `peek_iff_decoder`.
-/

namespace ColumnWire.Wire.Varint

open Decoder

/-! ## Steps of the reader -/

/-- With groups left to take, the end of the bytes is one byte too early. -/
lemma takeGroups_nil (left weight acc : Nat) :
    takeGroups (left + 1) weight acc [] = .error (.incomplete 1) [] := rfl

/-- One byte either ends the number, or goes on with the next group, or has too many bits. -/
lemma takeGroups_cons (left weight acc : Nat) (b : UInt8) (rest : Bytes) :
    takeGroups (left + 1) weight acc (b :: rest) =
      if left = 0 ∧ 1 < b.toNat % 128 then .error .varintOverflow rest
      else if b < 128 then .ok (UInt64.ofNat (acc + b.toNat % 128 * weight)) rest
      else takeGroups left (weight * 128) (acc + b.toNat % 128 * weight) rest := by
  simp only [takeGroups, Decoder.byte, bind, EStateM.bind]
  by_cases h : left = 0 ∧ 1 < b.toNat % 128
  · rw [if_pos h, if_pos h]
    rfl
  · rw [if_neg h, if_neg h]
    by_cases hb : b < 128
    · simp [hb]
    · simp [hb]

/-- A group and those behind it count as the number that they make. -/
lemma add_group (acc group m weight : Nat) :
    acc + group * weight + m * (weight * 128) = acc + (group + 128 * m) * weight := by
  rw [Nat.add_mul, ← Nat.add_assoc, Nat.mul_comm weight 128, ← Nat.mul_assoc, Nat.mul_comm m 128]

/-! ## The writer -/

/-- A byte below 256 has its own value. -/
lemma toNat_ofNat_byte {n : Nat} (h : n < 256) : (UInt8.ofNat n).toNat = n :=
  UInt8.toNat_ofNat_of_lt' h

/-- The shortest groups of a number are taken with the weight that they begin with. -/
lemma takeGroups_groups (more n weight acc : Nat) (rest : Bytes)
    (h : n < 2 * Nat.pow 128 more) :
    takeGroups (more + 1) weight acc (groups more n ++ rest) =
      .ok (UInt64.ofNat (acc + n * weight)) rest := by
  induction more generalizing n weight acc with
  | zero =>
      have hn : n < 2 := h
      have hb : UInt8.ofNat n < 128 := by
        rw [UInt8.lt_iff_toNat_lt, toNat_ofNat_byte (by omega)]
        change n < 128
        omega
      rw [groups, List.singleton_append, takeGroups_cons, toNat_ofNat_byte (by omega),
        Nat.mod_eq_of_lt (by omega), if_neg (by omega), if_pos hb]
  | succ more ih =>
      rw [groups]
      by_cases hn : n < 128
      · have hb : UInt8.ofNat n < 128 := by
          rw [UInt8.lt_iff_toNat_lt, toNat_ofNat_byte (by omega)]
          exact hn
        rw [if_pos hn, List.singleton_append, takeGroups_cons, toNat_ofNat_byte (by omega),
          Nat.mod_eq_of_lt hn, if_neg (by omega), if_pos hb]
      · have hb : ¬ UInt8.ofNat (n % 128 + 128) < 128 := by
          rw [UInt8.lt_iff_toNat_lt, toNat_ofNat_byte (by omega)]
          change ¬ n % 128 + 128 < 128
          omega
        have hgroup : (n % 128 + 128) % 128 = n % 128 := by omega
        have hquot : n / 128 < 2 * Nat.pow 128 more := by
          have hpow : Nat.pow 128 (more + 1) = Nat.pow 128 more * 128 := rfl
          omega
        rw [if_neg hn, List.cons_append, takeGroups_cons, toNat_ofNat_byte (by omega), hgroup,
          if_neg (by omega), if_neg hb, ih _ _ _ hquot, add_group, Nat.mod_add_div]

/-- The written bytes of a number spell it. -/
lemma encode_spells (v : UInt64) : decoder.Spells (encode v) v := by
  intro rest
  have hv : v.toNat < 2 * Nat.pow 128 9 := v.toNat_lt
  have h := takeGroups_groups 9 v.toNat 1 0 rest hv
  simpa [encode, decoder, maxLength] using h

/-- The written length of a list of fewer than `2 ^ 64` members spells it. -/
lemma encode_length_spells {n : Nat} (h : n < UInt64.size) :
    decoder.Spells (encode (UInt64.ofNat n)) (UInt64.ofNat n) ∧
      (UInt64.ofNat n).toNat = n :=
  ⟨encode_spells _, UInt64.toNat_ofNat_of_lt' h⟩

/-- A written truth value spells it. -/
lemma encodeFlag_spells (b : Bool) : flag.Spells (encodeFlag b) b := by
  refine (encode_spells _).bind_nil fun rest => ?_
  cases b <;> rfl

/-- A number is written in one byte or more. -/
lemma encode_ne_nil (v : UInt64) : encode v ≠ [] := by
  rw [encode, maxLength, groups]
  split <;> simp

/-! ## Looking ahead -/

/-- What a look tells after `seen` bytes is what taking the number from the bytes `p` answers. -/
def Peek.Tells (look : Peek) (seen : Nat) (p : Bytes) (r : EStateM.Result WireError Bytes UInt64) :
    Prop :=
  match look with
  | .found v n => seen < n ∧ r = .ok v (p.drop (n - seen))
  | .short => ∃ left, r = .error (.incomplete 1) left
  | .overflow => ∃ left, r = .error .varintOverflow left

/-- What a look tells of the bytes behind a byte, it tells of the byte with them. -/
lemma Peek.Tells.cons {look : Peek} {seen : Nat} {p : Bytes} {b : UInt8}
    {r : EStateM.Result WireError Bytes UInt64} (h : look.Tells (seen + 1) p r) :
    look.Tells seen (b :: p) r := by
  cases look with
  | found v n =>
      obtain ⟨hlt, hr⟩ := h
      refine ⟨by omega, ?_⟩
      rw [hr, show n - seen = n - (seen + 1) + 1 by omega, List.drop_succ_cons]
  | short => exact h
  | overflow => exact h

/-- From any group on, looking tells what taking answers. -/
lemma peekFrom_tells {index left : Nat} (hleft : index + left = maxLength) (acc : Nat) (p : Bytes) :
    (peekFrom index acc p).Tells index p (takeGroups left (Nat.pow 128 index) acc p) := by
  have hmax : maxLength = 10 := rfl
  induction p generalizing index left acc with
  | nil =>
      rw [peekFrom]
      cases left with
      | zero =>
          rw [if_neg (by omega)]
          exact ⟨[], rfl⟩
      | succ left =>
          rw [if_pos (by omega)]
          exact ⟨[], takeGroups_nil ..⟩
  | cons b rest ih =>
      rw [peekFrom]
      cases left with
      | zero =>
          rw [if_pos (by omega)]
          exact ⟨b :: rest, rfl⟩
      | succ left =>
          rw [if_neg (by omega), takeGroups_cons]
          -- The tenth byte is the one after which no group is left.
          have hlast : (index = maxLength - 1 ∧ 1 < b.toNat % 128) ↔
              (left = 0 ∧ 1 < b.toNat % 128) := by omega
          by_cases hover : left = 0 ∧ 1 < b.toNat % 128
          · rw [if_pos (hlast.2 hover), if_pos hover]
            exact ⟨rest, rfl⟩
          · rw [if_neg (hlast.not.2 hover), if_neg hover]
            by_cases hb : b < 128
            · rw [if_pos hb, if_pos hb]
              exact ⟨by omega, by simp⟩
            · rw [if_neg hb, if_neg hb]
              exact (ih (by omega) _).cons

/-- Looking at the front of a buffer tells what taking a number from it answers. -/
lemma peek_tells (p : Bytes) : (peek p).Tells 0 p (decoder p) :=
  peekFrom_tells (by omega) 0 p

/-- What is looked at are bytes that are there. -/
lemma length_of_peekFrom {index acc n : Nat} {p : Bytes} {v : UInt64}
    (h : peekFrom index acc p = .found v n) : n ≤ index + p.length := by
  induction p generalizing index acc with
  | nil =>
      rw [peekFrom] at h
      split at h <;> cases h
  | cons b rest ih =>
      rw [peekFrom] at h
      split at h
      · cases h
      split at h
      · cases h
      dsimp only at h
      split at h
      · cases h
        rw [List.length_cons]
        omega
      · have hrest := ih h
        rw [List.length_cons]
        omega

/-- A look finds a number exactly if it is taken from the bytes that the look tells. -/
lemma peek_eq_found_iff {p : Bytes} {v : UInt64} {n : Nat} :
    peek p = .found v n ↔ n ≤ p.length ∧ decoder p = .ok v (p.drop n) := by
  have htells := peek_tells p
  constructor
  · intro h
    rw [h] at htells
    have hlength := length_of_peekFrom h
    exact ⟨by omega, htells.2⟩
  · rintro ⟨hn, hv⟩
    cases hpeek : peek p with
    | found v' n' =>
        rw [hpeek, hv] at htells
        obtain ⟨-, hsame⟩ := htells
        have hlength := length_of_peekFrom hpeek
        injection hsame with hvalue hrest
        -- As many bytes are left, so as many were taken.
        have hcount := congrArg List.length hrest
        rw [List.length_drop, List.length_drop] at hcount
        rw [hvalue, show n' = n by omega]
    | short =>
        rw [hpeek, hv] at htells
        obtain ⟨left, hleft⟩ := htells
        cases hleft
    | overflow =>
        rw [hpeek, hv] at htells
        obtain ⟨left, hleft⟩ := htells
        cases hleft

/-- A look misses bytes exactly if taking the number does. -/
lemma peek_eq_short_iff {p : Bytes} :
    peek p = .short ↔ ∃ k left, decoder p = .error (.incomplete k) left := by
  have htells := peek_tells p
  cases hpeek : peek p <;> rw [hpeek] at htells
  · simp [htells.2]
  · obtain ⟨left, hleft⟩ := htells
    simp [hleft]
  · obtain ⟨left, hleft⟩ := htells
    simp [hleft]

/-- A look meets too many bytes or bits exactly if taking the number does. -/
lemma peek_eq_overflow_iff {p : Bytes} :
    peek p = .overflow ↔ ∃ left, decoder p = .error .varintOverflow left := by
  have htells := peek_tells p
  cases hpeek : peek p <;> rw [hpeek] at htells
  · simp [htells.2]
  · obtain ⟨left, hleft⟩ := htells
    simp [hleft]
  · obtain ⟨left, hleft⟩ := htells
    simp [hleft]

/-- The two readers agree on all bytes. A look finds a number of `n` bytes exactly if taking it takes just
these; it misses bytes exactly if taking does, and it meets too many bytes or bits exactly if taking does. -/
theorem peek_iff_decoder (p : Bytes) :
    (∀ v n, peek p = .found v n ↔ n ≤ p.length ∧ decoder p = .ok v (p.drop n)) ∧
    (peek p = .short ↔ ∃ k left, decoder p = .error (.incomplete k) left) ∧
    (peek p = .overflow ↔ ∃ left, decoder p = .error .varintOverflow left) :=
  ⟨fun _ _ => peek_eq_found_iff, peek_eq_short_iff, peek_eq_overflow_iff⟩

end ColumnWire.Wire.Varint
