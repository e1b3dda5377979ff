import Mathlib.Tactic.Common
import ColumnWire.Proofs.Packet.Frame
import ColumnWire.Proofs.Stream.Settled

/-!
# Reads refine decoders

A read of a stream answers what the decoder of the same bytes answers, wherever the bytes are cut into
pieces. `Refines r d` says this of a read and a decoder and is kept by sequencing; it holds of every
read of whole fields and frames (`ReadOp.refines`).

A read that succeeds also never asks for bytes once those that it takes have come: all that it does to
the transport is `Refills`, receives each of which is made while bytes are missing and brings some.
That is the field `Refines.prompt`.
-/

namespace ColumnWire.Stream

open ColumnWire.Wire ColumnWire.Packet ColumnWire.Number

namespace Input

/-! ## Receives while bytes are missing -/

/-- Receives in a row, each of which is made while fewer than `need` bytes are in the buffer and
brings a byte or more. -/
inductive Refills (need : Nat) : Input → Input → Prop where
  /-- No receive. -/
  | enough (s : Input) : Refills need s s
  /-- One receive and then others. -/
  | more {s t u : Input} {missing n : Nat} (hneed : s.buffer.length < need)
      (hfill : fill missing s = .ok n t) (hn : 0 < n) (hrest : Refills need t u) : Refills need s u

/-- A receive adds to the buffer at its end. -/
lemma buffer_prefix_of_fill {missing n : Nat} {s t : Input} (h : fill missing s = .ok n t) :
    s.buffer <+: t.buffer := by
  obtain ⟨piece, t, -, -, rfl⟩ := receive_of_fill h
  exact List.prefix_append _ _

/-- A receive loses no byte. -/
lemma settled_of_fill {missing n : Nat} {s t : Input} (h : fill missing s = .ok n t) :
    t.settled = s.settled := by
  by_cases hempty : s.transport.outstanding = []
  · rw [fill_of_exhausted missing hempty] at h
    split at h <;> cases h
    exact settled_settled s
  · obtain ⟨n', s', hfill, _, hsettled, _⟩ := fill_of_outstanding missing hempty
    rw [h] at hfill
    cases hfill
    exact hsettled

/-- A receive does not look at the buffer. -/
lemma fill_push (w : Bytes) {missing n : Nat} {s t : Input} (h : fill missing s = .ok n t) :
    fill missing { s with buffer := w ++ s.buffer } = .ok n { t with buffer := w ++ t.buffer } := by
  obtain ⟨piece, t, hreceive, rfl, rfl⟩ := receive_of_fill h
  rw [fill_of_ok (s := { s with buffer := w ++ s.buffer }) hreceive, List.append_assoc]

namespace Refills

variable {need need' : Nat} {s t u : Input}

/-- Receives add to the buffer at its end. -/
lemma buffer_prefix (h : Refills need s t) : s.buffer <+: t.buffer := by
  induction h with
  | enough s => exact List.prefix_refl _
  | more _ hfill _ _ ih => exact (buffer_prefix_of_fill hfill).trans ih

/-- Receives lose no byte. -/
lemma settled_eq (h : Refills need s t) : t.settled = s.settled := by
  induction h with
  | enough s => rfl
  | more _ hfill _ _ ih => rw [ih, settled_of_fill hfill]

/-- When more bytes are needed, as many are missing. -/
lemma mono (hle : need ≤ need') (h : Refills need s t) : Refills need' s t := by
  induction h with
  | enough s => exact .enough s
  | more hneed hfill hn _ ih => exact .more (Nat.lt_of_lt_of_le hneed hle) hfill hn ih

/-- Receives in a row follow each other. -/
lemma trans (h : Refills need s t) (h' : Refills need t u) : Refills need s u := by
  induction h with
  | enough s => exact h'
  | more hneed hfill hn _ ih => exact .more hneed hfill hn (ih h')

/-- Bytes in front of the buffer are not received again. -/
lemma push (w : Bytes) (h : Refills need s t) :
    Refills (w.length + need) { s with buffer := w ++ s.buffer }
      { t with buffer := w ++ t.buffer } := by
  induction h with
  | enough s => exact .enough _
  | more hneed hfill hn _ ih =>
      refine .more ?_ (fill_push w hfill) hn ih
      rw [List.length_append]
      omega

end Refills

/-! ## Refinement -/

/-- All bytes that waited have been received. -/
def IsSettled (s : Input) : Prop :=
  s.transport.drained = s.transport

/-- Settling settles. -/
lemma settled_isSettled (s : Input) : s.settled.IsSettled := Transport.drained_drained _

/-- A settled input is its own settled input. -/
lemma IsSettled.settled_eq {s : Input} (h : s.IsSettled) : s.settled = s := by
  have houtstanding : s.transport.outstanding = [] := by
    rw [← h]
    exact Transport.drained_outstanding _
  rw [settled, h, unread_eq, houtstanding, List.append_nil]

/-- A settled input with another buffer has just that to read. -/
lemma unread_with_buffer (s : Input) (rest : Bytes) :
    ({ s.settled with buffer := rest } : Input).unread = rest := by
  rw [unread_eq, settled, Transport.drained_outstanding, List.append_nil]

/-- The read answers what the decoder answers of all unread bytes. -/
structure Refines {α : Type} (r : Reader α) (d : Decoder α) : Prop where
  /-- It does not matter which bytes have been received. -/
  commutes : Commutes settled r
  /-- What the decoder takes is read. -/
  taken : ∀ {s v rest}, s.IsSettled → d s.buffer = .ok v rest → r s = .ok v { s with buffer := rest }
  /-- What the decoder misses, the stream does not give. -/
  short : ∀ {s k left}, s.IsSettled → d s.buffer = .error (.incomplete k) left →
    ∃ t, r s = .error (s.transport.stop.getD (.unexpectedEnd k)) t
  /-- What the decoder refuses is refused. -/
  refused : ∀ {s e left}, s.IsSettled → e.isIncomplete = false → d s.buffer = .error e left →
    ∃ t, r s = .error (.wire e) t
  /-- Nothing is received that is not needed. -/
  prompt : ∀ {s v t}, r s = .ok v t → ∃ w mid, d.Spells w v ∧ Refills w.length s mid ∧
    mid.buffer = w ++ t.buffer ∧ t = { mid with buffer := t.buffer }

namespace Refines

variable {α β : Type} {r : Reader α} {d : Decoder α}

/-- Answering at once refines taking nothing. -/
lemma pure (a : α) : Refines (pure a) (pure a : Decoder α) where
  commutes := Commutes.pure a
  taken _ h := by
    cases h
    rfl
  short _ h := by cases h
  refused _ _ h := by cases h
  prompt {s v t} h := by
    cases h
    exact ⟨[], s, Decoder.Spells.pure _, .enough s, rfl, rfl⟩

/-- Refusing at once refines refusing at once. -/
lemma throw {e : WireError} (he : e.isIncomplete = false) :
    Refines (throw (.wire e)) (throw e : Decoder α) where
  commutes := Commutes.throw _
  taken _ h := by cases h
  short _ h := by
    cases h
    simp [WireError.isIncomplete] at he
  refused {s e' left} _ _ h := by
    cases h
    exact ⟨s, rfl⟩
  prompt h := by cases h

/-- Reads in a row refine decoders in a row. -/
lemma bind {f : α → Reader β} {g : α → Decoder β} (h : Refines r d)
    (hf : ∀ a, Refines (f a) (g a)) : Refines (r >>= f) (d >>= g) where
  commutes := h.commutes.bind fun a => (hf a).commutes
  taken {s v rest} hs hv := by
    obtain ⟨a, left, ha, hb⟩ := bind_eq_ok.1 hv
    rw [bind_ok (h.taken hs ha)]
    exact (hf a).taken (s := { s with buffer := left }) hs hb
  short {s k left} hs he := by
    rcases bind_eq_error.1 he with hd | ⟨a, mid, ha, hb⟩
    · obtain ⟨t, ht⟩ := h.short hs hd
      exact ⟨t, bind_error ht⟩
    · obtain ⟨t, ht⟩ := (hf a).short (s := { s with buffer := mid }) hs hb
      exact ⟨t, by rw [bind_ok (h.taken hs ha), ht]⟩
  refused {s e left} hs hinc he := by
    rcases bind_eq_error.1 he with hd | ⟨a, mid, ha, hb⟩
    · obtain ⟨t, ht⟩ := h.refused hs hinc hd
      exact ⟨t, bind_error ht⟩
    · obtain ⟨t, ht⟩ := (hf a).refused (s := { s with buffer := mid }) hs hinc hb
      exact ⟨t, by rw [bind_ok (h.taken hs ha), ht]⟩
  prompt {s v u} hv := by
    obtain ⟨a, t, ha, hb⟩ := bind_eq_ok.1 hv
    obtain ⟨w, mid, hw, hfirst, hmid, ht⟩ := h.prompt ha
    obtain ⟨w', mid', hw', hthen, hmid', hu⟩ := (hf a).prompt hb
    -- Put the bytes that the first read took back in front of what the second one received.
    have hback : { t with buffer := w ++ t.buffer } = mid := by
      rw [← hmid, ht]
    have hthen' := hthen.push w
    rw [hback, ← List.length_append] at hthen'
    refine ⟨w ++ w', { mid' with buffer := w ++ mid'.buffer }, hw.bind hw', ?_, ?_, ?_⟩
    · exact (hfirst.mono (by simp)).trans hthen'
    · rw [hmid', List.append_assoc]
    · rw [hu]

/-- What the decoder takes is read, and what comes behind stays as it is. -/
lemma of_taken (h : Refines r d) {s : Input} {v : α} {rest : Bytes} (hv : d s.unread = .ok v rest) :
    ∃ t, r s = .ok v t ∧ t.settled = { s.settled with buffer := rest } := by
  have hsettled := h.commutes s
  rw [h.taken s.settled_isSettled hv] at hsettled
  exact mapState_eq_ok.1 hsettled.symm

/-- What the decoder misses, the stream does not give. -/
lemma of_short (h : Refines r d) {s : Input} {k : Nat} {left : Bytes}
    (he : d s.unread = .error (.incomplete k) left) :
    ∃ t, r s = .error (s.transport.stop.getD (.unexpectedEnd k)) t := by
  obtain ⟨t, ht⟩ := h.short s.settled_isSettled he
  have hstop : s.settled.transport.stop = s.transport.stop := Transport.drained_stop _
  rw [h.commutes s, mapState_eq_error, hstop] at ht
  obtain ⟨u, hu, _⟩ := ht
  exact ⟨u, hu⟩

/-- What the decoder refuses is refused. -/
lemma of_refused (h : Refines r d) {s : Input} {e : WireError} {left : Bytes}
    (hinc : e.isIncomplete = false) (he : d s.unread = .error e left) :
    ∃ t, r s = .error (.wire e) t := by
  obtain ⟨t, ht⟩ := h.refused s.settled_isSettled hinc he
  rw [h.commutes s, mapState_eq_error] at ht
  obtain ⟨u, hu, _⟩ := ht
  exact ⟨u, hu⟩

/-- The decoder takes, misses or refuses, and the read follows it. -/
lemma outcome (h : Refines r d) (s : Input) :
    (∃ v rest t, d s.unread = .ok v rest ∧ r s = .ok v t ∧
      t.settled = { s.settled with buffer := rest }) ∨
    (∃ k left t, d s.unread = .error (.incomplete k) left ∧
      r s = .error (s.transport.stop.getD (.unexpectedEnd k)) t) ∨
    ∃ e left t, e.isIncomplete = false ∧ d s.unread = .error e left ∧ r s = .error (.wire e) t := by
  cases hd : d s.unread with
  | ok v rest =>
      obtain ⟨t, ht, hsettled⟩ := h.of_taken hd
      exact .inl ⟨v, rest, t, rfl, ht, hsettled⟩
  | error e left =>
      cases e with
      | incomplete k =>
          obtain ⟨t, ht⟩ := h.of_short hd
          exact .inr (.inl ⟨k, left, t, rfl, ht⟩)
      | _ =>
          obtain ⟨t, ht⟩ := h.of_refused rfl hd
          exact .inr (.inr ⟨_, left, t, rfl, rfl, ht⟩)

/-- What is read is what the decoder takes. -/
lemma ok_iff (h : Refines r d) {s : Input} {v : α} {rest : Bytes} :
    (∃ t, r s = .ok v t ∧ t.unread = rest) ↔ d s.unread = .ok v rest := by
  constructor
  · rintro ⟨t, ht, rfl⟩
    obtain ⟨v', rest, t', hd, hr, hsettled⟩ | ⟨k, left, t', _, hr⟩ | ⟨e, left, t', _, _, hr⟩ :=
      h.outcome s
    all_goals
      rw [ht] at hr
      cases hr
    rw [hd, ← settled_unread t, hsettled, unread_with_buffer]
  · intro hd
    obtain ⟨t, ht, hsettled⟩ := h.of_taken hd
    exact ⟨t, ht, by rw [← settled_unread t, hsettled, unread_with_buffer]⟩

/-- The stream ends early when the decoder misses bytes. -/
lemma unexpectedEnd_iff (h : Refines r d) {s : Input} (hstop : s.transport.stop = none) {k : Nat} :
    (∃ t, r s = .error (.unexpectedEnd k) t) ↔
      ∃ left, d s.unread = .error (.incomplete k) left := by
  constructor
  · rintro ⟨t, ht⟩
    obtain ⟨v, rest, t', _, hr, _⟩ | ⟨k', left, t', hd, hr⟩ | ⟨e, left, t', _, _, hr⟩ := h.outcome s
    all_goals
      rw [ht] at hr
      simp [hstop] at hr
    obtain ⟨rfl, -⟩ := hr
    exact ⟨left, hd⟩
  · rintro ⟨left, hd⟩
    obtain ⟨t, ht⟩ := h.of_short hd
    rw [hstop] at ht
    exact ⟨t, ht⟩

/-- The bytes are refused when the decoder refuses them. -/
lemma wire_iff (h : Refines r d) {s : Input} {e : WireError} :
    (∃ t, r s = .error (.wire e) t) ↔
      e.isIncomplete = false ∧ ∃ left, d s.unread = .error e left := by
  constructor
  · rintro ⟨t, ht⟩
    obtain ⟨v, rest, t', _, hr, _⟩ | ⟨k, left, t', _, hr⟩ | ⟨e', left, t', he', hd, hr⟩ :=
      h.outcome s
    all_goals rw [ht] at hr
    · cases hr
    · have hstop := s.transport.stop_ne_wire e
      cases hs : s.transport.stop <;> simp_all
    · cases hr
      exact ⟨he', left, hd⟩
  · rintro ⟨hinc, left, hd⟩
    exact h.of_refused hinc hd

end Refines

/-! ## Frames -/

section Frames

variable {α : Type} {d : Decoder α} {p rest : Bytes} {v : α} {e : WireError}

/-- A value is in sight when the decoder takes it. -/
lemma lookFrame_eq_found : lookFrame d p = .found v rest ↔ d p = .ok v rest := by
  unfold lookFrame
  split <;> simp_all

/-- A refusal is in sight when the decoder refuses. -/
lemma lookFrame_eq_refused :
    lookFrame d p = .refused e ↔ e.isIncomplete = false ∧ ∃ left, d p = .error e left := by
  unfold lookFrame
  split
  · simp_all
  · rename_i h
    simp only [h, reduceCtorEq, false_iff, not_and]
    rintro he ⟨left, h'⟩
    cases h'
    simp [WireError.isIncomplete] at he
  · rename_i e' left hne h
    simp only [h, Sight.refused.injEq, EStateM.Result.error.injEq]
    constructor
    · rintro rfl
      refine ⟨?_, left, rfl, rfl⟩
      cases e' <;> simp_all [WireError.isIncomplete]
    · rintro ⟨_, _, rfl, _⟩
      rfl

/-- The missing bytes of a stable decoder are in sight as they are. -/
lemma lookFrame_of_incomplete (hd : d.PrefixStable) {k : Nat} (h : d p = .error (.incomplete k) rest) :
    lookFrame d p = .short k := by
  unfold lookFrame
  simp only [h]
  rw [Nat.max_eq_left (hd.short h).1]

/-- What a stable decoder tells of some bytes it tells of more bytes. -/
lemma lookFrame_steady (hd : d.PrefixStable) : Steady (lookFrame d) where
  found h q := by
    obtain ⟨w, rfl, hw⟩ := hd.taken (lookFrame_eq_found.1 h)
    rw [lookFrame_eq_found, List.append_assoc]
    exact hw _
  refused h q := by
    obtain ⟨he, left, hleft⟩ := lookFrame_eq_refused.1 h
    exact lookFrame_eq_refused.2 ⟨he, hd.refused hleft he q⟩

/-- Waiting that ends with a value has it in sight, or receives something first. -/
lemma awaitWithin_eq_ok {look : Bytes → Sight α} {fuel : Nat} {s t : Input}
    (h : awaitWithin look endsEarly fuel s = .ok v t) :
    (∃ rest, look s.buffer = .found v rest ∧ t = { s with buffer := rest }) ∨
      ∃ fuel' missing n u, fuel = fuel' + 1 ∧ look s.buffer = .short missing ∧
        fill missing s = .ok n u ∧ 0 < n ∧ awaitWithin look endsEarly fuel' u = .ok v t := by
  cases hsight : look s.buffer with
  | found v' rest =>
      rw [awaitWithin_found (s := s) hsight] at h
      cases h
      exact .inl ⟨rest, rfl, rfl⟩
  | refused e =>
      rw [awaitWithin_refused (s := s) hsight] at h
      cases h
  | short missing =>
      rw [awaitWithin_short (s := s) hsight] at h
      obtain ⟨n, u, hfill, hrest⟩ := bind_eq_ok.1 h
      cases fuel with
      | zero => cases hrest
      | succ fuel =>
          rw [resume] at hrest
          split at hrest
          · cases hrest
          · exact .inr ⟨fuel, missing, n, u, rfl, rfl, hfill, by omega, hrest⟩

/-- Nothing is received for a frame once all its bytes have come. -/
lemma awaitWithin_lookFrame_prompt (hd : d.PrefixStable) {fuel : Nat} {s t : Input}
    (h : awaitWithin (lookFrame d) endsEarly fuel s = .ok v t) :
    ∃ w mid, d.Spells w v ∧ Refills w.length s mid ∧ mid.buffer = w ++ t.buffer ∧
      t = { mid with buffer := t.buffer } := by
  induction fuel generalizing s with
  | zero =>
      rcases awaitWithin_eq_ok h with ⟨rest, hsight, rfl⟩ | ⟨_, _, _, _, hfuel, _⟩
      · obtain ⟨w, hw, hspells⟩ := hd.taken (lookFrame_eq_found.1 hsight)
        exact ⟨w, s, hspells, .enough s, hw, rfl⟩
      · cases hfuel
  | succ fuel ih =>
      obtain ⟨rest, hsight, rfl⟩ | ⟨fuel', missing, n, u, hfuel, hsight, hfill, hn, hu⟩ :=
        awaitWithin_eq_ok h
      · obtain ⟨w, hw, hspells⟩ := hd.taken (lookFrame_eq_found.1 hsight)
        exact ⟨w, s, hspells, .enough s, hw, rfl⟩
      · cases hfuel
        obtain ⟨w, mid, hspells, hrefills, hmid, ht⟩ := ih hu
        refine ⟨w, mid, hspells, .more ?_ hfill hn hrefills, hmid, ht⟩
        -- With all of `w` in the buffer the decoder would not have missed anything.
        by_contra hlong
        have hprefix := (buffer_prefix_of_fill hfill).trans hrefills.buffer_prefix
        have hw : w <+: s.buffer := by
          refine List.prefix_of_prefix_length_le ?_ hprefix (by omega)
          rw [hmid]
          exact List.prefix_append _ _
        obtain ⟨behind, hbehind⟩ := hw
        have hfound := lookFrame_eq_found.2 (hspells behind)
        rw [hbehind, hsight] at hfound
        cases hfound

/-- Reading a frame refines its decoder. -/
lemma readFrame_refines (hd : d.PrefixStable) : Refines (readFrame d) d where
  commutes := await_commutes (lookFrame_steady hd) fun _ => Commutes.throw _
  taken {s v rest} hs h := by
    rw [readFrame, ← hs.settled_eq, await_of_settled, settledAwait, hs.settled_eq]
    simp only [lookFrame_eq_found.2 h]
  short {s k left} hs h := by
    refine ⟨s, ?_⟩
    rw [readFrame, ← hs.settled_eq, await_of_settled, settledAwait, hs.settled_eq]
    simp only [lookFrame_of_incomplete hd h]
    cases s.transport.stop <;> rfl
  refused {s e left} hs he h := by
    refine ⟨s, ?_⟩
    rw [readFrame, ← hs.settled_eq, await_of_settled, settledAwait, hs.settled_eq]
    simp only [lookFrame_eq_refused.2 ⟨he, left, h⟩]
  prompt {s v t} h := by
    rw [readFrame, await_eq] at h
    exact awaitWithin_lookFrame_prompt hd h

/-- The two readers of varints are one. -/
lemma readVarint_eq {σ : Type} [Source σ] :
    (readVarint : EStateM StreamError σ UInt64) = readFrame Varint.decoder := by
  have hlook : lookVarint = lookFrame Varint.decoder := by
    funext p
    have htells := Varint.peek_tells p
    unfold lookVarint lookFrame
    cases hpeek : Varint.peek p with
    | found v n =>
        rw [hpeek] at htells
        simp [htells.2]
    | short =>
        rw [hpeek] at htells
        obtain ⟨left, hleft⟩ := htells
        simp [hleft]
    | overflow =>
        rw [hpeek] at htells
        obtain ⟨left, hleft⟩ := htells
        simp [hleft]
  rw [readVarint, readFrame, hlook]

/-- Looking for a number of bytes is looking for the frame that they are. -/
lemma lookExactly_eq (n : Nat) : lookExactly n = lookFrame (Decoder.take n) := by
  funext p
  unfold lookExactly lookFrame
  by_cases hn : n ≤ p.length
  · simp [Decoder.take_of_le hn, Nat.min_eq_left hn]
  · have hlt : p.length < n := by omega
    simp [Decoder.take_of_lt hlt, Nat.min_eq_right (Nat.le_of_lt hlt), hlt]
    omega

/-- Reading a number of bytes is reading a frame. -/
lemma readExactly_eq {σ : Type} [Source σ] (n : Nat) :
    (readExactly n : EStateM StreamError σ Bytes) = readFrame (Decoder.take n) := by
  rw [readExactly, readFrame, lookExactly_eq]

/-- Reading a varint refines its decoder. -/
lemma readVarint_refines : Refines readVarint Varint.decoder := by
  rw [readVarint_eq]
  exact readFrame_refines Varint.decoder_prefixStable

/-- Reading a number of bytes refines taking them. -/
lemma readExactly_refines (n : Nat) : Refines (readExactly n) (Decoder.take n) := by
  rw [readExactly_eq]
  exact readFrame_refines (Decoder.take_prefixStable n)

/-- Reading a byte string refines its decoder. -/
lemma readBinary_refines : Refines readBinary BinaryField.decoder :=
  readVarint_refines.bind fun n => readExactly_refines n.toNat

/-- Reading a text refines its decoder. -/
lemma readText_refines : Refines readText TextField.decoder := by
  refine readBinary_refines.bind fun raw => ?_
  cases ofUtf8? raw with
  | none => exact .throw rfl
  | some s => exact .pure s

/-- Reading a single-precision number refines its decoder. -/
lemma readBinary32_refines : Refines readBinary32 binary32 :=
  (readExactly_refines 4).bind fun _ => .pure _

/-- Reading a double-precision number refines its decoder. -/
lemma readBinary64_refines : Refines readBinary64 binary64 :=
  (readExactly_refines 8).bind fun _ => .pure _

end Frames

end Input

/-! ## The reads of a stream -/

/-- A read of a field or a frame, by the type of what is read. -/
inductive ReadOp : Type → Type 1 where
  /-- A varint. -/
  | varint : ReadOp UInt64
  /-- A byte string behind its length. -/
  | binary : ReadOp Bytes
  /-- A text behind its length. -/
  | text : ReadOp String
  /-- A single-precision number. -/
  | binary32 : ReadOp Binary32
  /-- A double-precision number. -/
  | binary64 : ReadOp Binary64
  /-- A frame. -/
  | frame {α : Type} (f : Frame α) : ReadOp α

namespace ReadOp

/-- The read itself. -/
def reader {σ : Type} [Source σ] {α : Type} : ReadOp α → EStateM StreamError σ α
  | .varint => Input.readVarint
  | .binary => Input.readBinary
  | .text => Input.readText
  | .binary32 => Input.readBinary32
  | .binary64 => Input.readBinary64
  | .frame f => Input.readFrame f.decoder

/-- The decoder of the same field or frame. -/
def decoder {α : Type} : ReadOp α → Decoder α
  | .varint => Varint.decoder
  | .binary => BinaryField.decoder
  | .text => TextField.decoder
  | .binary32 => Wire.binary32
  | .binary64 => Wire.binary64
  | .frame f => f.decoder

variable {α : Type}

/-- Every read refines its decoder. -/
lemma refines (op : ReadOp α) : Input.Refines op.reader op.decoder := by
  cases op with
  | varint => exact Input.readVarint_refines
  | binary => exact Input.readBinary_refines
  | text => exact Input.readText_refines
  | binary32 => exact Input.readBinary32_refines
  | binary64 => exact Input.readBinary64_refines
  | frame f => exact Input.readFrame_refines f.decoder_prefixStable

/-- What follows the bytes of a read does not matter to its decoder. -/
lemma decoder_prefixStable (op : ReadOp α) : op.decoder.PrefixStable := by
  cases op with
  | varint => exact Varint.decoder_prefixStable
  | binary => exact BinaryField.decoder_prefixStable
  | text => exact TextField.decoder_prefixStable
  | binary32 => exact binary32_prefixStable
  | binary64 => exact binary64_prefixStable
  | frame f => exact f.decoder_prefixStable

/-- Every read agrees with its decoder on all unread bytes, wherever they are cut: it reads a value
where the decoder takes it and leaves the same bytes; it misses as many bytes at the end of the stream
as the decoder does; it refuses what the decoder refuses. A success takes bytes `w`, receives nothing
but what `Refills` allows while they have not all come, and so succeeds as well when the peer sends
nothing behind them and stays. -/
theorem agrees_with_decoder (op : ReadOp α) (s : Input) :
    (∀ v rest, (∃ t, op.reader s = .ok v t ∧ t.unread = rest) ↔ op.decoder s.unread = .ok v rest) ∧
    (∀ p, s.transport.peer = some p → p.ending = .closed → ∀ k,
      (∃ t, op.reader s = .error (.unexpectedEnd k) t) ↔
        ∃ left, op.decoder s.unread = .error (.incomplete k) left) ∧
    (∀ e, (∃ t, op.reader s = .error (.wire e) t) ↔
      e.isIncomplete = false ∧ ∃ left, op.decoder s.unread = .error e left) ∧
    ∀ v t, op.reader s = .ok v t → ∃ w mid, s.unread = w ++ t.unread ∧ op.decoder.Spells w v ∧
      Input.Refills w.length s mid ∧ mid.buffer = w ++ t.buffer ∧
      t = { mid with buffer := t.buffer } := by
  refine ⟨fun v rest => op.refines.ok_iff, fun p hpeer hclosed k => ?_, fun e => op.refines.wire_iff,
    fun v t h => ?_⟩
  · apply op.refines.unexpectedEnd_iff
    simp [Transport.stop, hpeer, hclosed]
  · obtain ⟨w, mid, hspells, hrefills, hmid, ht⟩ := op.refines.prompt h
    refine ⟨w, mid, ?_, hspells, hrefills, hmid, ht⟩
    have hunread : s.unread = mid.unread := by
      rw [← Input.settled_unread s, ← hrefills.settled_eq, Input.settled_unread]
    rw [hunread, Input.unread_eq, hmid, Input.unread_eq, List.append_assoc, ht]

/-- A buffered byte and two pieces behind it, the first of which ends a varint. -/
def cutVarint : Input :=
  { transport := Transport.attached { incoming := [[1], [7]] } {}, buffer := [131] }

/-- The varint is read over the cut and the second piece goes on waiting; a text of that length is
short of 130 bytes. -/
theorem agrees_with_decoder_cutVarint :
    (∃ t, ReadOp.text.reader cutVarint = .error (.unexpectedEnd 130) t) ∧
    ∃ t, ReadOp.varint.reader cutVarint = .ok 131 t ∧ t.transport.outstanding = [7] ∧
      ∃ w mid, cutVarint.unread = w ++ t.unread ∧ ReadOp.varint.decoder.Spells w 131 ∧
        Input.Refills w.length cutVarint mid ∧ mid.buffer = w ++ t.buffer ∧
        t = { mid with buffer := t.buffer } :=
  ⟨((agrees_with_decoder .text cutVarint).2.1 _ rfl rfl 130).2 ⟨[7], rfl⟩, _, rfl, rfl,
    (agrees_with_decoder .varint cutVarint).2.2.2 131 _ rfl⟩

end ReadOp

end ColumnWire.Stream
