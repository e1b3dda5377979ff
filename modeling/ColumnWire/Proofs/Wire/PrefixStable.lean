import Mathlib.Tactic.Common
import ColumnWire.Proofs.Wire.Action
import ColumnWire.Wire.Field

/-!
# Decoders and what follows their bytes

A decoder takes its value from the front of some bytes. This file says in which sense the bytes behind
that front do not matter:

* `Decoder.Spells d w v`: the bytes `w` spell the value `v`, so that `d` takes exactly them whatever
  follows;
* `Decoder.PrefixStable d`: a value is taken from bytes that spell it, an error other than too few
  bytes stays the same when more bytes follow, and `k` missing bytes are at least one and really
  needed.

Stability is kept by sequencing, choice and counted repetition, and holds of the varint and of every
field. `PrefixStable.of_fuel` carries it over to decoders whose fuel is the number of their bytes;
that more fuel makes no difference to them follows from `Consuming`: each of their fields takes a
byte.
-/

namespace ColumnWire.Wire

namespace Decoder

variable {α β : Type}

/-- The bytes `w` spell `v`: the decoder takes exactly them, whatever follows. -/
def Spells (d : Decoder α) (w : Bytes) (v : α) : Prop :=
  ∀ rest, d (w ++ rest) = .ok v rest

/-- What follows the bytes of a decoder does not matter to it. -/
structure PrefixStable (d : Decoder α) : Prop where
  /-- A value is taken from bytes that spell it. -/
  taken : ∀ {p v r}, d p = .ok v r → ∃ w, p = w ++ r ∧ d.Spells w v
  /-- What is refused stays refused. -/
  refused : ∀ {p e r}, d p = .error e r → e.isIncomplete = false →
    ∀ q, ∃ r', d (p ++ q) = .error e r'
  /-- Missing bytes are really missing. -/
  short : ∀ {p k r}, d p = .error (.incomplete k) r →
    1 ≤ k ∧ ∀ q : Bytes, q.length < k → ∃ k' r', d (p ++ q) = .error (.incomplete k') r'

/-! ## Spelling in sequence -/

/-- No bytes spell what is there already. -/
lemma Spells.pure (v : α) : Spells (pure v) [] v := fun _ => rfl

/-- What one decoder takes stands before what the next one takes. -/
lemma Spells.bind {d : Decoder α} {f : α → Decoder β} {w w' : Bytes} {a : α} {b : β}
    (h : d.Spells w a) (h' : (f a).Spells w' b) : (d >>= f).Spells (w ++ w') b := by
  intro rest
  rw [List.append_assoc, bind_ok (h (w' ++ rest))]
  exact h' rest

/-- A decoder may be followed by a decision that takes nothing. -/
lemma Spells.bind_nil {d : Decoder α} {f : α → Decoder β} {w : Bytes} {a : α} {b : β}
    (h : d.Spells w a) (h' : (f a).Spells [] b) : (d >>= f).Spells w b := by
  simpa using h.bind h'

/-- Bytes that spell a value spell no other one, and no more or fewer of them do. -/
lemma Spells.unique {d : Decoder α} {w w' r r' : Bytes} {v v' : α} (h : d.Spells w v)
    (h' : d.Spells w' v') (he : w ++ r = w' ++ r') : v = v' ∧ w = w' ∧ r = r' := by
  have hd := h r
  rw [he, h' r'] at hd
  cases hd
  exact ⟨rfl, List.append_cancel_right he, rfl⟩

/-- Each run of a repeated decoder takes its own bytes. -/
lemma Spells.repeated_map {d : Decoder α} {vs : List β} {write : β → Bytes} {seen : β → α}
    (h : ∀ v ∈ vs, d.Spells (write v) (seen v)) :
    Spells (repeated vs.length d) (vs.flatMap write) (vs.map seen) := by
  induction vs with
  | nil => exact Spells.pure []
  | cons v vs ih =>
      rw [List.length_cons, repeated_succ, List.flatMap_cons]
      exact (h v List.mem_cons_self).bind
        ((ih fun u hu => h u (List.mem_cons_of_mem v hu)).bind_nil (Spells.pure _))

/-- Each run of a repeated decoder takes its own bytes, and all that is in them. -/
lemma Spells.repeated {d : Decoder α} {vs : List α} {write : α → Bytes}
    (h : ∀ v ∈ vs, d.Spells (write v) v) :
    Spells (repeated vs.length d) (vs.flatMap write) vs := by
  have hmap : Spells (Wire.repeated vs.length d) (vs.flatMap write) (vs.map id) := repeated_map h
  rwa [List.map_id] at hmap

/-! ## Stability in sequence -/

namespace PrefixStable

/-- Taking nothing is stable. -/
lemma pure (v : α) : PrefixStable (pure v) where
  taken h := by
    cases h
    exact ⟨[], rfl, Spells.pure v⟩
  refused h := by cases h
  short h := by cases h

/-- Refusing at once is stable, unless more bytes are claimed to be missing. -/
lemma throw {e : WireError} (he : e.isIncomplete = false) :
    PrefixStable (throw e : Decoder α) where
  taken h := by cases h
  refused h _ q := by
    cases h
    exact ⟨_, rfl⟩
  short h := by
    cases h
    simp [WireError.isIncomplete] at he

/-- Asking for one more byte is stable. -/
lemma throw_incomplete_one : PrefixStable (MonadExcept.throw (.incomplete 1) : Decoder α) where
  taken h := by cases h
  refused h he := by
    cases h
    simp [WireError.isIncomplete] at he
  short h := by
    cases h
    exact ⟨Nat.le_refl _, fun q _ => ⟨1, _, rfl⟩⟩

/-- One stable decoder after the other is stable. -/
lemma bind {d : Decoder α} {f : α → Decoder β} (hd : PrefixStable d)
    (hf : ∀ a, PrefixStable (f a)) : PrefixStable (d >>= f) where
  taken {p v r} h := by
    obtain ⟨a, t, ha, hb⟩ := bind_eq_ok.1 h
    obtain ⟨w, rfl, hw⟩ := hd.taken ha
    obtain ⟨w', rfl, hw'⟩ := (hf a).taken hb
    exact ⟨w ++ w', by simp, hw.bind hw'⟩
  refused {p e r} h he q := by
    rcases bind_eq_error.1 h with hd' | ⟨a, t, ha, hb⟩
    · obtain ⟨r', hr'⟩ := hd.refused hd' he q
      exact ⟨r', bind_error hr'⟩
    · obtain ⟨w, rfl, hw⟩ := hd.taken ha
      obtain ⟨r', hr'⟩ := (hf a).refused hb he q
      refine ⟨r', ?_⟩
      rw [List.append_assoc, bind_ok (hw (t ++ q))]
      exact hr'
  short {p k r} h := by
    rcases bind_eq_error.1 h with hd' | ⟨a, t, ha, hb⟩
    · obtain ⟨hk, hq⟩ := hd.short hd'
      refine ⟨hk, fun q hlt => ?_⟩
      obtain ⟨k', r', hr'⟩ := hq q hlt
      exact ⟨k', r', bind_error hr'⟩
    · obtain ⟨w, rfl, hw⟩ := hd.taken ha
      obtain ⟨hk, hq⟩ := (hf a).short hb
      refine ⟨hk, fun q hlt => ?_⟩
      obtain ⟨k', r', hr'⟩ := hq q hlt
      refine ⟨k', r', ?_⟩
      rw [List.append_assoc, bind_ok (hw (t ++ q))]
      exact hr'

/-- A choice that does not depend on the bytes is stable. -/
lemma ite {c : Prop} [Decidable c] {d d' : Decoder α} (h : PrefixStable d)
    (h' : PrefixStable d') : PrefixStable (if c then d else d') := by
  split
  · exact h
  · exact h'

/-- Counted repetition is stable. -/
lemma repeated {d : Decoder α} (h : PrefixStable d) (n : Nat) : PrefixStable (repeated n d) := by
  induction n with
  | zero => exact PrefixStable.pure []
  | succ n ih =>
      rw [repeated_succ]
      exact h.bind fun a => ih.bind fun rest => PrefixStable.pure (a :: rest)

/-- A value leaves no more bytes than there were. -/
lemma length_le {d : Decoder α} (h : PrefixStable d) {p r : Bytes} {v : α}
    (hv : d p = .ok v r) : r.length ≤ p.length := by
  obtain ⟨w, rfl, _⟩ := h.taken hv
  simp

/-- Bytes that spell a value only together with some behind them are too few. -/
lemma short_of_spells {d : Decoder α} (h : PrefixStable d) {u w : Bytes} {v : α}
    (hv : d.Spells (u ++ w) v) (hw : w ≠ []) : ∃ k r, d u = .error (.incomplete k) r := by
  have hwhole : d (u ++ w) = .ok v [] := by simpa using hv []
  cases hu : d u with
  | ok v' r =>
      -- What is taken from the bytes alone would leave those behind them.
      obtain ⟨x, rfl, hx⟩ := h.taken hu
      have hrest := hx (r ++ w)
      rw [← List.append_assoc, hwhole] at hrest
      cases r with
      | nil => cases hrest; exact absurd rfl hw
      | cons b r => cases hrest
  | error e r =>
      cases he : e.isIncomplete with
      | false =>
          obtain ⟨r', hr'⟩ := h.refused hu he w
          rw [hwhole] at hr'
          cases hr'
      | true =>
          cases e with
          | incomplete k => exact ⟨k, r, rfl⟩
          | _ => cases he

/-- A decoder that is given as much fuel as there are bytes is stable, if each amount of fuel makes a
stable decoder and more fuel than bytes makes no difference. -/
lemma of_fuel {d : Nat → Decoder α} (hd : ∀ n, PrefixStable (d n))
    (hfuel : ∀ {m n p}, List.length p ≤ m → List.length p ≤ n → d m p = d n p) :
    PrefixStable fun p => d p.length p where
  taken {p v r} h := by
    obtain ⟨w, rfl, _⟩ := (hd _).taken h
    refine ⟨w, rfl, fun rest => ?_⟩
    -- Fuel for both continuations of `w` reads the same value from each.
    let m := max (w ++ r).length (w ++ rest).length
    have hm : d m (w ++ r) = .ok v r := by
      rw [← h]
      exact hfuel (Nat.le_max_left _ _) (Nat.le_refl _)
    obtain ⟨w', hw', hs⟩ := (hd m).taken hm
    obtain rfl := List.append_cancel_right hw'
    change d (w ++ rest).length (w ++ rest) = .ok v rest
    rw [← hs rest]
    exact hfuel (Nat.le_refl _) (Nat.le_max_right _ _)
  refused {p e r} h he q := by
    have hm : d (p ++ q).length p = .error e r := by
      rw [← h]
      exact hfuel (by simp) (Nat.le_refl _)
    exact (hd _).refused hm he q
  short {p k r} h := by
    refine ⟨((hd _).short h).1, fun q hq => ?_⟩
    have hm : d (p ++ q).length p = .error (.incomplete k) r := by
      rw [← h]
      exact hfuel (by simp) (Nat.le_refl _)
    exact ((hd _).short hm).2 q hq

/-- What follows a stable decoder matters only on the bytes that it can leave. -/
lemma bind_congr {d : Decoder α} {f g : α → Decoder β} {p : Bytes} (hd : PrefixStable d)
    (h : ∀ a r, r.length ≤ p.length → f a r = g a r) : (d >>= f) p = (d >>= g) p := by
  cases hp : d p with
  | error e r => rw [bind_error hp, bind_error hp]
  | ok a r =>
      rw [bind_ok hp, bind_ok hp]
      exact h a r (hd.length_le hp)

end PrefixStable

/-! ## Bytes that are used up -/

/-- A value takes a byte or more. -/
def Consuming (d : Decoder α) : Prop :=
  ∀ {p v r}, d p = .ok v r → r.length < p.length

/-- A value that takes a byte is not spelled by none. -/
lemma Consuming.ne_nil {d : Decoder α} (hd : Consuming d) {w : Bytes} {v : α} (h : d.Spells w v) :
    w ≠ [] := by
  rintro rfl
  exact Nat.lt_irrefl _ (hd (h []))

/-- Whatever stable decoder follows, a byte is taken. -/
lemma Consuming.bind {d : Decoder α} {f : α → Decoder β} (hd : Consuming d)
    (hf : ∀ a, PrefixStable (f a)) : Consuming (d >>= f) := by
  intro p v r h
  obtain ⟨a, t, ha, hb⟩ := bind_eq_ok.1 h
  have hlt := hd ha
  have hle := (hf a).length_le hb
  omega

/-- What follows a decoder that takes a byte matters only on fewer bytes. -/
lemma Consuming.bind_congr {d : Decoder α} {f g : α → Decoder β} {p : Bytes} (hd : Consuming d)
    (h : ∀ a r, r.length < p.length → f a r = g a r) : (d >>= f) p = (d >>= g) p := by
  cases hp : d p with
  | error e r => rw [bind_error hp, bind_error hp]
  | ok a r =>
      rw [bind_ok hp, bind_ok hp]
      exact h a r (hd hp)

/-! ## Bytes -/

/-- A byte spells itself. -/
lemma byte_spells (b : UInt8) : byte.Spells [b] b := fun _ => rfl

/-- Taking one byte is stable. -/
lemma byte_prefixStable : PrefixStable byte where
  taken {p v r} h := by
    cases p with
    | nil => cases h
    | cons b rest =>
        cases h
        exact ⟨[v], rfl, byte_spells v⟩
  refused {p e r} h he := by
    cases p with
    | nil =>
        cases h
        simp [WireError.isIncomplete] at he
    | cons b rest => cases h
  short {p k r} h := by
    cases p with
    | nil =>
        cases h
        refine ⟨Nat.le_refl _, fun q hq => ?_⟩
        obtain rfl : q = [] := List.length_eq_zero_iff.1 (by omega)
        exact ⟨1, [], rfl⟩
    | cons b rest => cases h

/-- Taking one byte takes a byte. -/
lemma byte_consuming : Consuming byte := by
  intro p v r h
  cases p with
  | nil => cases h
  | cons b rest =>
      cases h
      exact Nat.lt_succ_self _

/-- Enough bytes are taken. -/
lemma take_of_le {n : Nat} {p : Bytes} (h : n ≤ p.length) :
    take n p = .ok (p.take n) (p.drop n) := by
  simp [take, Nat.min_eq_left h]

/-- Too few bytes are left alone, with the number of those that are missing. -/
lemma take_of_lt {n : Nat} {p : Bytes} (h : p.length < n) :
    take n p = .error (.incomplete (n - p.length)) p := by
  simp [take, Nat.min_eq_right (Nat.le_of_lt h), h]

/-- Bytes spell themselves when as many are taken. -/
lemma take_spells (w : Bytes) : (take w.length).Spells w w := by
  intro rest
  rw [take_of_le (by simp)]
  simp

/-- Taking a number of bytes is stable. -/
lemma take_prefixStable (n : Nat) : PrefixStable (take n) where
  taken {p v r} h := by
    by_cases hn : n ≤ p.length
    · rw [take_of_le hn] at h
      cases h
      refine ⟨p.take n, (List.take_append_drop n p).symm, ?_⟩
      have hw := take_spells (p.take n)
      rwa [List.length_take, Nat.min_eq_left hn] at hw
    · rw [take_of_lt (by omega)] at h
      cases h
  refused {p e r} h he := by
    by_cases hn : n ≤ p.length
    · rw [take_of_le hn] at h
      cases h
    · rw [take_of_lt (by omega)] at h
      cases h
      simp [WireError.isIncomplete] at he
  short {p k r} h := by
    by_cases hn : n ≤ p.length
    · rw [take_of_le hn] at h
      cases h
    · rw [take_of_lt (by omega)] at h
      cases h
      refine ⟨by omega, fun q hq => ⟨_, _, take_of_lt ?_⟩⟩
      rw [List.length_append]
      omega

/-- Taking some bytes takes a byte. -/
lemma take_consuming {n : Nat} (h : 0 < n) : Consuming (take n) := by
  intro p v r hp
  by_cases hn : n ≤ p.length
  · rw [take_of_le hn] at hp
    cases hp
    rw [List.length_drop]
    omega
  · rw [take_of_lt (by omega)] at hp
    cases hp

end Decoder

open Decoder

/-! ## Fields -/

/-- Taking the groups of a varint is stable. -/
lemma Varint.takeGroups_prefixStable (left weight acc : Nat) :
    PrefixStable (Varint.takeGroups left weight acc) := by
  induction left generalizing weight acc with
  | zero => exact .throw rfl
  | succ left ih =>
      refine byte_prefixStable.bind fun b => ?_
      refine PrefixStable.ite (.bind (.throw rfl) fun _ => ?_) (.bind (.pure _) fun _ => ?_) <;>
        exact .ite (.pure _) (ih _ _)

/-- Taking a varint is stable. -/
lemma Varint.decoder_prefixStable : PrefixStable Varint.decoder :=
  Varint.takeGroups_prefixStable _ _ _

/-- A varint takes a byte or more. -/
lemma Varint.decoder_consuming : Consuming Varint.decoder := by
  refine byte_consuming.bind fun b => ?_
  refine PrefixStable.ite (.bind (.throw rfl) fun _ => ?_) (.bind (.pure _) fun _ => ?_) <;>
    exact .ite (.pure _) (Varint.takeGroups_prefixStable _ _ _)

/-- Taking a truth value is stable. -/
lemma Varint.flag_prefixStable : PrefixStable Varint.flag :=
  Varint.decoder_prefixStable.bind fun _ => .pure _

/-- Taking a byte string is stable. -/
lemma BinaryField.decoder_prefixStable : PrefixStable BinaryField.decoder :=
  Varint.decoder_prefixStable.bind fun n => take_prefixStable n.toNat

/-- A byte string takes a byte or more, that of its length. -/
lemma BinaryField.decoder_consuming : Consuming BinaryField.decoder :=
  Varint.decoder_consuming.bind fun n => take_prefixStable n.toNat

/-- Taking a text is stable. -/
lemma TextField.decoder_prefixStable : PrefixStable TextField.decoder := by
  refine BinaryField.decoder_prefixStable.bind fun raw => ?_
  cases ofUtf8? raw with
  | none => exact .throw rfl
  | some s => exact .pure s

/-- A text takes a byte or more. -/
lemma TextField.decoder_consuming : Consuming TextField.decoder := by
  refine BinaryField.decoder_consuming.bind fun raw => ?_
  cases ofUtf8? raw with
  | none => exact .throw rfl
  | some s => exact .pure s

/-- Taking two texts is stable. -/
lemma TextField.pair_prefixStable : PrefixStable TextField.pair :=
  TextField.decoder_prefixStable.bind fun _ => TextField.decoder_prefixStable.bind fun _ => .pure _

/-- Taking a single-precision number is stable. -/
lemma binary32_prefixStable : PrefixStable binary32 :=
  (take_prefixStable 4).bind fun _ => .pure _

/-- A single-precision number takes a byte or more. -/
lemma binary32_consuming : Consuming binary32 :=
  Consuming.bind (take_consuming (by decide)) fun _ => .pure _

/-- Taking a double-precision number is stable. -/
lemma binary64_prefixStable : PrefixStable binary64 :=
  (take_prefixStable 8).bind fun _ => .pure _

/-- A double-precision number takes a byte or more. -/
lemma binary64_consuming : Consuming binary64 :=
  Consuming.bind (take_consuming (by decide)) fun _ => .pure _

end ColumnWire.Wire
