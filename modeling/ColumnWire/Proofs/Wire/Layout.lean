import Mathlib.Tactic.Common
import ColumnWire.Proofs.Wire.Shortest

/-!
# The layout of decoders

A decoder is made of reads: of numbers, and of bytes of which a number said how many there are. A
`Layout` of it says in which order these reads are made and what each depends on, so that one can ask
which bytes it reads as numbers (`Layout.numbers`) and whether each of these numbers is in its shortest
form (`Layout.Shortest`).

Of such bytes nothing is lost: what a number, a text or a counted repetition was read from is what is
written for it (`Layout.Exact`). A decoder of several fields is inverted with `Layout.Exact.seq`, field by
field.
-/

namespace ColumnWire.Wire

open Decoder

variable {α β : Type}

/-- Of which reads a decoder is made. -/
inductive Layout : {α : Type} → Decoder α → Type 1 where
  /-- A number. -/
  | number : Layout Varint.decoder
  /-- Bytes, as many as are asked for. -/
  | raw (n : Nat) : Layout (take n)
  /-- Nothing: the value is there. -/
  | settled {α : Type} (a : α) : Layout (pure a : Decoder α)
  /-- Nothing: what was read is refused. -/
  | refused {α : Type} (e : WireError) : Layout (throw e : Decoder α)
  /-- Reads, and others that depend on what they answer. -/
  | seq {α β : Type} {d : Decoder α} {f : α → Decoder β} (l : Layout d) (m : ∀ a, Layout (f a)) :
      Layout (d >>= f)
  /-- The one reads or the others. -/
  | choice {α : Type} {d d' : Decoder α} (c : Prop) [Decidable c] (l : Layout d) (l' : Layout d') :
      Layout (if c then d else d')
  /-- The same reads so many times. -/
  | repeated {α : Type} {d : Decoder α} (n : Nat) (l : Layout d) : Layout (Wire.repeated n d)

namespace Layout

/-! ## Numbers -/

/-- What is noted in each of `n` runs of a decoder. -/
def noted (d : Decoder α) (note : Bytes → List Bytes) : (n : Nat) → Bytes → List Bytes
  | 0, _ => []
  | n + 1, p =>
    note p ++
      match d p with
      | .ok _ rest => noted d note n rest
      | .error _ _ => []

/-- The bytes that are read as numbers, in order. -/
def numbers {α : Type} {d : Decoder α} : Layout d → Bytes → List Bytes
  | .number, p =>
    match Varint.decoder p with
    | .ok _ rest => [p.take (p.length - rest.length)]
    | .error _ _ => []
  | .raw _, _ => []
  | .settled _, _ => []
  | .refused _, _ => []
  | @seq _ _ d _ l m, p =>
    l.numbers p ++
      match d p with
      | .ok a rest => (m a).numbers rest
      | .error _ _ => []
  | @choice _ _ _ c _ l l', p => if c then l.numbers p else l'.numbers p
  | @repeated _ d n l, p => noted d l.numbers n p

/-- Every number that is read is in its shortest form. -/
def Shortest {d : Decoder α} (l : Layout d) (p : Bytes) : Prop :=
  ∀ w ∈ l.numbers p, Varint.IsShortest w

instance {d : Decoder α} (l : Layout d) (p : Bytes) : Decidable (l.Shortest p) :=
  inferInstanceAs (Decidable (∀ w ∈ l.numbers p, Varint.IsShortest w))

/-- Nothing is lost: what a value is read from, if every number in it is in its shortest form, is what is
written for the value. -/
def Exact {d : Decoder α} (l : Layout d) (write : α → Bytes) : Prop :=
  ∀ ⦃p v r⦄, d p = .ok v r → l.Shortest p → p = write v ++ r

variable {d d' : Decoder α} {f : α → Decoder β} {l : Layout d} {l' : Layout d'} {m : ∀ a, Layout (f a)}
  {p r : Bytes} {b : β} {write : α → Bytes}

/-- The number that is read. -/
lemma numbers_number {u : Bytes} {v : UInt64} (h : Varint.decoder (u ++ r) = .ok v r) :
    number.numbers (u ++ r) = [u] := by
  change (match Varint.decoder (u ++ r) with
    | .ok _ rest => [(u ++ r).take ((u ++ r).length - rest.length)]
    | .error _ _ => []) = _
  rw [h]
  simp

/-- The numbers of reads in a row, the first of which answer. -/
lemma numbers_seq {a : α} {t : Bytes} (h : d p = .ok a t) :
    (l.seq m).numbers p = l.numbers p ++ (m a).numbers t := by
  rw [numbers, h]

/-- The numbers of a choice. -/
lemma numbers_choice (c : Prop) [Decidable c] :
    (choice c l l').numbers p = if c then l.numbers p else l'.numbers p := rfl

/-- The numbers of one run more, of which the first answers. -/
lemma numbers_repeated_succ {n : Nat} {a : α} {t : Bytes} (h : d p = .ok a t) :
    (l.repeated (n + 1)).numbers p = l.numbers p ++ (l.repeated n).numbers t := by
  change l.numbers p ++ (match d p with
    | .ok _ rest => noted d l.numbers n rest
    | .error _ _ => []) = _
  rw [h]
  rfl

/-- Reads in a row that answer: each of them does, and its numbers are in their shortest form. -/
lemma seq_eq_ok (h : (d >>= f) p = .ok b r) (hs : (l.seq m).Shortest p) :
    ∃ a t, d p = .ok a t ∧ l.Shortest p ∧ f a t = .ok b r ∧ (m a).Shortest t := by
  obtain ⟨a, t, ha, hb⟩ := bind_eq_ok.1 h
  rw [Shortest, numbers_seq ha] at hs
  exact ⟨a, t, ha, fun w hw => hs w (List.mem_append_left _ hw), hb,
    fun w hw => hs w (List.mem_append_right _ hw)⟩

/-- Reads that lose nothing, and others behind them. -/
lemma Exact.seq (hl : l.Exact write) (h : (d >>= f) p = .ok b r) (hs : (l.seq m).Shortest p) :
    ∃ a t, p = write a ++ t ∧ f a t = .ok b r ∧ (m a).Shortest t := by
  obtain ⟨a, t, ha, hfirst, hb, hthen⟩ := seq_eq_ok h hs
  exact ⟨a, t, hl ha hfirst, hb, hthen⟩

/-- The first of two choices. -/
lemma Shortest.of_pos {c : Prop} [Decidable c] (hc : c) (hs : (choice c l l').Shortest p) :
    l.Shortest p := by
  rwa [Shortest, numbers_choice, if_pos hc] at hs

/-- The second of two choices. -/
lemma Shortest.of_neg {c : Prop} [Decidable c] (hc : ¬ c) (hs : (choice c l l').Shortest p) :
    l'.Shortest p := by
  rwa [Shortest, numbers_choice, if_neg hc] at hs

/-- A number is written as it was read. -/
lemma number_exact : number.Exact Varint.encode := by
  intro p v r h hs
  obtain ⟨u, rfl, -, hwritten, -⟩ := Varint.decoder_eq_ok h
  have hread : u ∈ number.numbers (u ++ r) := by simp [numbers_number h]
  rw [← hwritten (hs u hread)]

/-- Each run of a repeated decoder is written as it was read, and there are as many as were asked for. -/
lemma repeated_exact (hl : l.Exact write) {n : Nat} {vs : List α}
    (h : Wire.repeated n d p = .ok vs r) (hs : (l.repeated n).Shortest p) :
    vs.length = n ∧ p = vs.flatMap write ++ r := by
  induction n generalizing p vs with
  | zero =>
      cases h
      exact ⟨rfl, rfl⟩
  | succ n ih =>
      rw [repeated_succ] at h
      obtain ⟨v, t, hv, h⟩ := bind_eq_ok.1 h
      obtain ⟨vs', t', hvs, h⟩ := bind_eq_ok.1 h
      cases h
      rw [Shortest, numbers_repeated_succ hv] at hs
      obtain rfl := hl hv fun w hw => hs w (List.mem_append_left _ hw)
      obtain ⟨hlength, rfl⟩ := ih hvs fun w hw => hs w (List.mem_append_right _ hw)
      exact ⟨by rw [List.length_cons, hlength], by rw [List.flatMap_cons, List.append_assoc]⟩

end Layout

/-! ## Texts -/

/-- The length of a byte string, and its bytes. -/
def BinaryField.layout : Layout BinaryField.decoder :=
  Layout.number.seq fun n => .raw n.toNat

/-- A byte string is written as it was read. -/
lemma BinaryField.layout_exact : layout.Exact encode := by
  intro p v r h hs
  obtain ⟨n, t, rfl, htake, -⟩ := Layout.number_exact.seq h hs
  obtain ⟨rfl, hlength⟩ := take_eq_ok htake
  rw [encode, hlength, UInt64.ofNat_toNat, List.append_assoc]

namespace TextField

/-- Nothing: bytes that were read are a text or not. -/
def checked : (x : Option String) →
    Layout (match x with | some s => (pure s : Decoder String) | none => throw .invalidUtf8)
  | some s => .settled s
  | none => .refused .invalidUtf8

/-- The bytes of a text behind their number. -/
def layout : Layout TextField.decoder :=
  BinaryField.layout.seq fun raw => checked (ofUtf8? raw)

/-- A text is written as it was read. -/
lemma layout_exact : layout.Exact encode := by
  intro p v r h hs
  obtain ⟨raw, t, rfl, htext, -⟩ := BinaryField.layout_exact.seq h hs
  cases hraw : ofUtf8? raw with
  | none =>
      rw [hraw] at htext
      cases htext
  | some s =>
      rw [hraw] at htext
      cases htext
      rw [encode, utf8_of_ofUtf8? hraw]

/-- Two texts. -/
def pairLayout : Layout pair :=
  layout.seq fun a => layout.seq fun b => .settled (a, b)

/-- Two texts are written as they were read. -/
lemma pairLayout_exact : pairLayout.Exact encodePair := by
  intro p v r h hs
  obtain ⟨a, t, rfl, h, hs⟩ := layout_exact.seq h hs
  obtain ⟨b, t, rfl, h, -⟩ := layout_exact.seq h hs
  cases h
  rw [encodePair, List.append_assoc]

end TextField

end ColumnWire.Wire
