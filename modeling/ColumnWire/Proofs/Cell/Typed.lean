import Mathlib.Data.List.Forall2
import Mathlib.Tactic.Common
import ColumnWire.Cell.Target
import ColumnWire.Proofs.Cell.Acceptance

/-!
# Typed values through a column

A value of the host program that is written in a column and read back from it is taken as the same value
again, whatever column took it (`Target.ofValue_read`). The column may store an integer in another width,
keep it in a dictionary or allow for missing values: its bounds are those of the type that was written,
and a missing value is none at the level where none was given.

On the way stands the value in its normal form. It is the one that the type within the wrappers makes of
it (`Conforms.exists_unwrapped`), so each kind of target meets one kind of type only.
-/

namespace ColumnWire.Cell

open ColumnWire.Wire ColumnWire.Number ColumnWire.Time ColumnWire.Stream

/-! ## Within the wrappers -/

/-- Whether the type only says that the values of another one may be missing or stand in a dictionary. -/
def ColumnType.isWrapper : ColumnType → Bool
  | .nullable _ | .lowCardinality _ => true
  | _ => false

/-- A value that is there conforms to a type within the wrappers, which makes the same of it. -/
lemma Conforms.exists_unwrapped {c : ColumnType} {v : Value} (h : Conforms c v) (hv : v ≠ .null) :
    ∃ b : ColumnType, b.isWrapper = false ∧ Conforms b v ∧ c.normal v = b.normal v := by
  induction c with
  | nullable c ih =>
      rw [ColumnType.normal_nullable hv]
      cases h with
      | null => exact absurd rfl hv
      | nullable h => exact ih h
  | lowCardinality c ih =>
      rw [ColumnType.normal]
      cases h with
      | lowCardinality h => exact ih h
  | _ => exact ⟨_, rfl, h, rfl⟩

namespace Conforms

variable {c : ColumnType}

/-- A text is read back as it is. -/
lemma normal_text {s : String} (h : Conforms c (.text s)) : c.normal (.text s) = .text s := by
  obtain ⟨b, hb, hconforms, hnormal⟩ := h.exists_unwrapped nofun
  rw [hnormal]
  cases hconforms with
  | text => rfl
  | nullable | lowCardinality => cases hb

/-- An integer is read back with its value, in the type of the column. -/
lemma normal_integer {n : SizedInt} (h : Conforms c (.integer n)) :
    ∃ m : SizedInt, c.normal (.integer n) = .integer m ∧ m.val = n.val := by
  obtain ⟨b, hb, hconforms, hnormal⟩ := h.exists_unwrapped nofun
  rw [hnormal]
  cases hconforms with
  | integer hholds => exact ⟨_, ColumnType.normal_integer hholds, rfl⟩
  | nullable | lowCardinality => cases hb

/-- A day is read back as it is. -/
lemma normal_date {d : Date} (h : Conforms c (.date d)) : c.normal (.date d) = .date d := by
  obtain ⟨b, hb, hconforms, hnormal⟩ := h.exists_unwrapped nofun
  rw [hnormal]
  cases hconforms with
  | date => rfl
  | nullable | lowCardinality => cases hb

/-- A moment is read back at the start of its second. -/
lemma normal_dateTime {t : Moment} (h : Conforms c (.dateTime t)) :
    c.normal (.dateTime t) = .dateTime t.truncate := by
  obtain ⟨b, hb, hconforms, hnormal⟩ := h.exists_unwrapped nofun
  rw [hnormal]
  cases hconforms with
  | dateTime => rfl
  | nullable | lowCardinality => cases hb

/-- A sequence is read back as a sequence of values that conform to one type, as they are read back in
it. -/
lemma normal_array {items : List Value} (h : Conforms c (.array items)) :
    ∃ e : ColumnType, (∀ v ∈ items, Conforms e v) ∧
      c.normal (.array items) = .array (items.map e.normal) := by
  obtain ⟨b, hb, hconforms, hnormal⟩ := h.exists_unwrapped nofun
  rw [hnormal]
  cases hconforms with
  | array hitems => exact ⟨_, hitems, rfl⟩
  | nullable | lowCardinality => cases hb

end Conforms

namespace Target

/-! ## Targets that keep their values -/

/-- Whether the target is that of values or none. -/
def isOption : Target → Bool
  | .option _ => true
  | _ => false

/-- Whether the target is made of integers, texts, days and moments by sequences and by options, none of
which stands directly within another. -/
def isStorable : Target → Bool
  | .integer _ | .text | .date | .moment => true
  | .list t => t.isStorable
  | .option t => !t.isOption && t.isStorable
  | _ => false

/-- Every moment is at the start of its second. -/
def AtWholeSeconds : (t : Target) → t.Carrier → Prop
  | .moment, t => t.nanos = 0
  | .list t, xs => List.Forall t.AtWholeSeconds xs
  | .option t, some x => t.AtWholeSeconds x
  | _, _ => True

/-- A missing value is refused where none is not a value of the target. -/
lemma ofValue_null {t : Target} (ht : t.isStorable = true) (hopt : t.isOption = false) :
    t.ofValue .null = .error .unexpectedNull := by
  cases t with
  | option t => cases hopt
  | integer | text | date | moment | list => rfl
  | _ => cases ht

/-- What is taken as a value of a target without options is taken as one that is there. -/
lemma ofValue_option_of_ok {t : Target} (ht : t.isStorable = true) (hopt : t.isOption = false) {v : Value}
    {x : t.Carrier} (h : t.ofValue v = .ok x) : (option t).ofValue v = .ok (some x) := by
  have hv : v.isNull = false := by
    cases v with
    | null =>
        rw [ofValue_null ht hopt] at h
        cases h
    | _ => rfl
  -- The carrier depends on the target, so the equation of `ofValue` cannot be rewritten with.
  change (if v.isNull then Except.ok none else _) = _
  rw [hv, h]
  rfl

/-- What is taken from each member of a sequence is taken from the sequence. -/
lemma ofValue_array {t : Target} {f : t.Carrier → Value} {g : Value → Value} {xs : List t.Carrier}
    (h : ∀ x ∈ xs, t.ofValue (g (f x)) = .ok x) :
    (list t).ofValue (.array ((xs.map f).map g)) = .ok xs := by
  refine mapM_eq_ok.2 ?_
  rw [List.forall₂_map_left_iff, List.forall₂_map_left_iff, List.forall₂_same]
  exact h

/-! ## There and back -/

/-- A value of a storable target that a column takes is taken back from its normal form. -/
lemma ofValue_normal {t : Target} (ht : t.isStorable = true) {c : ColumnType} {x : t.Carrier}
    (hx : t.AtWholeSeconds x) (h : Conforms c (t.toValue x)) :
    t.ofValue (c.normal (t.toValue x)) = .ok x := by
  induction t generalizing c with
  | integer k =>
      obtain ⟨i, hi⟩ := x
      obtain ⟨m, hnormal, hval⟩ : ∃ m, c.normal ((integer k).toValue ⟨i, hi⟩) = .integer m ∧ m.val = i :=
        Conforms.normal_integer h
      subst hval
      rw [hnormal]
      exact dif_pos hi
  | text =>
      have hnormal : c.normal (text.toValue x) = .text x := Conforms.normal_text h
      rw [hnormal]
      rfl
  | date =>
      have hnormal : c.normal (date.toValue x) = .date x := Conforms.normal_date h
      rw [hnormal]
      rfl
  | moment =>
      have hnormal : c.normal (moment.toValue x) = .dateTime (Moment.truncate x) :=
        Conforms.normal_dateTime h
      have hwhole : Moment.truncate x = x := Moment.truncate_eq_self hx
      rw [hnormal, hwhole]
      rfl
  | option t ih =>
      obtain ⟨hopt, ht⟩ : t.isOption = false ∧ t.isStorable = true := by simpa [isStorable] using ht
      cases x with
      | none =>
          have hnormal : c.normal ((option t).toValue none) = .null := ColumnType.normal_null c
          rw [hnormal]
          rfl
      | some y =>
          have hback : t.ofValue (c.normal (t.toValue y)) = .ok y := ih ht hx h
          exact ofValue_option_of_ok ht hopt hback
  | list t ih =>
      obtain ⟨e, hitems, hnormal⟩ := Conforms.normal_array h
      have heach (y : t.Carrier) (hy : List.Mem y x) : t.ofValue (e.normal (t.toValue y)) = .ok y :=
        ih ht (List.forall_iff_forall_mem.1 hx y hy) (hitems _ (List.mem_map_of_mem hy))
      rw [toValue, hnormal]
      exact ofValue_array heach
  | _ => cases ht

/-- What a column of any type takes of a storable target is read back from it as what it was, and exactly
what lies behind it is left, wherever the bytes are cut. Of the lengths no more is asked than that they
are words, as they are in memory. -/
theorem ofValue_read {t : Target} (ht : t.isStorable = true) {x : t.Carrier}
    (hx : t.AtWholeSeconds x) (hsized : (t.toValue x).Sized) (c : ColumnType) {w rest : Bytes}
    {s : Input} (hwrite : c.write (t.toValue x) = ⟨w, none⟩) (hs : s.unread = w ++ rest) :
    ∃ v s', c.read s = .ok v s' ∧ s'.unread = rest ∧ t.ofValue v = .ok x := by
  have hconforms : Conforms c (t.toValue x) := ColumnType.write_succeeds_iff.1 ⟨w, hwrite⟩
  obtain ⟨s', hread, hrest, _⟩ := ColumnType.write_reads c _ w hwrite hsized s rest trivial hs
  exact ⟨_, s', hread, hrest, ofValue_normal ht hx hconforms⟩

/-- Sequences of integers of 64 bits or none, or no sequence. -/
def nestedTarget : Target :=
  .option (.list (.option (.integer .int64)))

/-- A column for such sequences that stores 16 bits of each integer, and has a dictionary on each level. -/
def nestedColumn : ColumnType :=
  .lowCardinality (.nullable (.array (.lowCardinality (.nullable (.integer .int16)))))

/-- A sequence with an integer and with none. -/
def nestedSequence : nestedTarget.Carrier :=
  some [some ⟨-1, by decide⟩, none]

/-- The sequence comes back from 16 bits and two dictionaries with each integer and none at its place. -/
theorem ofValue_read_nested :
    nestedColumn.write (nestedTarget.toValue nestedSequence) =
        ⟨[1, 0, 2, 1, 0, 255, 255, 3, 0, 1, 1, 0, 0], none⟩ ∧
      ∃ v s', nestedColumn.read (Input.holding [1, 0, 2, 1, 0, 255, 255, 3, 0, 1, 1, 0, 0, 9]) =
          .ok v s' ∧ s'.unread = [9] ∧ nestedTarget.ofValue v = .ok nestedSequence :=
  ⟨rfl, @ofValue_read nestedTarget rfl nestedSequence ⟨trivial, trivial⟩
    ⟨by decide, trivial, trivial, trivial⟩ nestedColumn _ [9] _ rfl rfl⟩

end Target

end ColumnWire.Cell
