import Mathlib.Tactic.Common
import ColumnWire.Cell.Encode

/-!
# Writing without an error

When a value is written in a column of a type without an error, and in which bytes: one statement for
each kind of type (`ColumnType.write_text_eq_ok` and its companions). What is proved of written values
goes over the type with these and does not look into the writer again.
-/

namespace ColumnWire.Cell

open ColumnWire.Wire ColumnWire.Number ColumnWire.Time

/-! ## Parts -/

namespace Written

/-- Two parts are written without an error when each of them is. -/
lemma andThen_eq_ok {a b : Written} {w : Bytes} :
    a.andThen b = ⟨w, none⟩ ↔ ∃ u v, a = ⟨u, none⟩ ∧ b = ⟨v, none⟩ ∧ u ++ v = w := by
  obtain ⟨u, _ | e⟩ := a
  · obtain ⟨v, _ | e'⟩ := b <;> simp [andThen]
  · simp [andThen]

/-- A part is written without an error when it gives its bytes. -/
lemma toExcept_eq_ok {a : Written} {w : Bytes} : a.toExcept = .ok w ↔ a = ⟨w, none⟩ := by
  obtain ⟨u, _ | e⟩ := a <;> simp [toExcept]

/-- An error is no written part. -/
@[simp] lemma refuse_ne_ok (e : TypeError) (w : Bytes) : refuse e ≠ ⟨w, none⟩ := by
  simp [refuse]

/-- Bytes before a part stand before those of the part. -/
@[simp] lemma ok_andThen_eq_ok {u : Bytes} {b : Written} {w : Bytes} :
    (⟨u, none⟩ : Written).andThen b = ⟨w, none⟩ ↔ ∃ v, b = ⟨v, none⟩ ∧ u ++ v = w := by
  simp [andThen_eq_ok]

end Written

/-! ## Values -/

namespace ColumnType

variable {v : Value} {w : Bytes}

/-- A text is written by its length and its bytes. -/
lemma write_text_eq_ok :
    write .text v = ⟨w, none⟩ ↔ ∃ s, v = .text s ∧ TextField.encode s = w := by
  unfold write
  cases v <;> simp [Value.asText?]

/-- An integer is written where it fits, by its pattern. -/
lemma write_integer_eq_ok {k : IntegerType} :
    write (.integer k) v = ⟨w, none⟩ ↔
      ∃ i, v.asInt? = some i ∧ k.Holds i ∧ Varint.encode (k.pattern i) = w := by
  rw [write_integer, writeInteger]
  cases hint : v.asInt? with
  | none => simp
  | some i =>
      dsimp only
      by_cases hholds : k.Holds i <;> simp [hholds]

/-- A number of either precision is written in four bytes. -/
lemma write_float32_eq_ok :
    write .float32 v = ⟨w, none⟩ ↔
      ∃ x, (v = .float32 x ∨ ∃ y, v = .float64 y ∧ y.toBinary32 = x) ∧ encodeBinary32 x = w := by
  unfold write
  cases v <;> simp

/-- A number of either precision is written in eight bytes. -/
lemma write_float64_eq_ok :
    write .float64 v = ⟨w, none⟩ ↔ ∃ x, v.asBinary64? = some x ∧ encodeBinary64 x = w := by
  unfold write
  cases v.asBinary64? <;> simp

/-- A day is written from 1970 on. -/
lemma write_date_eq_ok :
    write .date v = ⟨w, none⟩ ↔
      ∃ d, v = .date d ∧ 0 ≤ d.day ∧ Varint.encode (UInt64.ofNat d.day.toNat) = w := by
  rw [write_date, writeDate]
  cases v with
  | date d =>
      by_cases hneg : d.day < 0
      · simp [Value.asDate?, hneg, Int.not_le.2 hneg]
      · simp [Value.asDate?, hneg, Int.not_lt.1 hneg]
  | _ => simp [Value.asDate?]

/-- A moment is written from 1970 on, by its whole seconds. -/
lemma write_dateTime_eq_ok :
    write .dateTime v = ⟨w, none⟩ ↔
      ∃ t, v = .dateTime t ∧ 0 ≤ t.seconds ∧ Varint.encode (UInt64.ofNat t.seconds.toNat) = w := by
  rw [write_dateTime, writeDateTime]
  cases v with
  | dateTime t =>
      by_cases hneg : t.seconds < 0
      · simp [Value.asMoment?, hneg, Int.not_le.2 hneg]
      · simp [Value.asMoment?, hneg, Int.not_lt.1 hneg]
  | _ => simp [Value.asMoment?]

/-- A sequence is written by the number of its items and the items. -/
lemma write_array_eq_ok {t : ColumnType} :
    write (.array t) v = ⟨w, none⟩ ↔
      ∃ items u, v = .array items ∧ writeItems t.write items = ⟨u, none⟩ ∧
        Varint.encode (UInt64.ofNat items.length) ++ u = w := by
  unfold write
  cases v <;> simp [countOf]

/-- A value or none is written by a flag, and by the value if there is one. -/
lemma write_nullable_eq_ok {t : ColumnType} :
    write (.nullable t) v = ⟨w, none⟩ ↔
      v = .null ∧ Varint.encode 1 = w ∨
        v ≠ .null ∧ ∃ u, t.write v = ⟨u, none⟩ ∧ Varint.encode 0 ++ u = w := by
  rw [write]
  cases v <;> simp [Value.isNull]

/-- A value in a dictionary is written as one entry, and as the index of that entry. -/
lemma write_lowCardinality_eq_ok {t : ColumnType} :
    write (.lowCardinality t) v = ⟨w, none⟩ ↔
      ∃ u, t.write v = ⟨u, none⟩ ∧ Varint.encode 1 ++ (u ++ Varint.encode 0) = w := by
  rw [write]
  simp [Written.andThen_eq_ok]

/-- A tuple is written by its elements, of which there are as many as types. -/
lemma write_tuple_eq_ok {ts : List ColumnType} :
    write (.tuple ts) v = ⟨w, none⟩ ↔
      ∃ items, v = .tuple items ∧ items.length = ts.length ∧ writeTuple ts items = ⟨w, none⟩ := by
  unfold write
  cases v with
  | tuple items => by_cases hlength : items.length = ts.length <;> simp [hlength]
  | _ => simp

/-- A map is written by the number of its pairs and the pairs. -/
lemma write_map_eq_ok {tk tv : ColumnType} :
    write (.map tk tv) v = ⟨w, none⟩ ↔
      ∃ entries u, v = .map entries ∧ writeEntries tk.write tv.write entries = ⟨u, none⟩ ∧
        Varint.encode (UInt64.ofNat entries.length) ++ u = w := by
  unfold write
  cases v <;> simp [countOf]

end ColumnType

end ColumnWire.Cell
