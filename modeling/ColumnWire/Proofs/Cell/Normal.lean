import Mathlib.Tactic.Common
import ColumnWire.Cell.Decode
import ColumnWire.Cell.Encode
import ColumnWire.Proofs.Number.Wrap

/-!
# Normal forms

What becomes of a value that is written in a column of a type and read back: `ColumnType.normal`.
Integers take the type of the column and keep their value, numbers with a fraction take its
precision, moments lose what is below a second, and composites are normal in their parts.

`Value.Sized` says that the lengths in a value fit into the words that they are counted in.
-/

namespace ColumnWire.Cell

open ColumnWire.Wire ColumnWire.Number ColumnWire.Time

/-! ## Induction over types -/

/-- What holds of the scalar types and passes from parts to composites holds of all types. -/
@[elab_as_elim, induction_eliminator]
theorem ColumnType.induction {motive : ColumnType → Prop} (text : motive .text)
    (integer : ∀ k, motive (.integer k)) (float32 : motive .float32) (float64 : motive .float64)
    (date : motive .date) (dateTime : motive .dateTime)
    (array : ∀ t, motive t → motive (.array t)) (nullable : ∀ t, motive t → motive (.nullable t))
    (lowCardinality : ∀ t, motive t → motive (.lowCardinality t))
    (tuple : ∀ ts, (∀ t ∈ ts, motive t) → motive (.tuple ts))
    (map : ∀ k v, motive k → motive v → motive (.map k v)) (t : ColumnType) : motive t := by
  refine @ColumnType.rec motive (fun ts => ∀ t ∈ ts, motive t) text integer float32 float64 date
    dateTime array nullable lowCardinality tuple map ?_ ?_ t
  · intro t ht
    cases ht
  · intro t ts ht hts u hu
    rcases List.mem_cons.1 hu with rfl | hu
    · exact ht
    · exact hts u hu

/-! ## Normal forms -/

namespace ColumnType

mutual

/-- The value as it is read back from a column of a type. -/
def normal : ColumnType → Value → Value
  | .integer k, v => ((v.asSized? k).map Value.integer).getD v
  | .float32, .float64 x => .float32 x.toBinary32
  | .float64, v => (v.asBinary64?.map Value.float64).getD v
  | .dateTime, .dateTime t => .dateTime t.truncate
  | .array t, .array items => .array (items.map t.normal)
  | .tuple ts, .tuple items => .tuple (normalTuple ts items)
  | .map tk tv, .map entries => .map (entries.map (Prod.map tk.normal tv.normal))
  | .nullable t, v => if v.isNull then .null else t.normal v
  | .lowCardinality t, v => t.normal v
  | _, v => v

/-- The elements of a tuple as they are read back, each in its type. -/
def normalTuple : List ColumnType → List Value → List Value
  | t :: ts, v :: vs => t.normal v :: normalTuple ts vs
  | _, vs => vs

end

/-- An integer that the type has is read back as one of the type. -/
lemma normal_integer {k : IntegerType} {n : SizedInt} (h : k.Holds n.val) :
    (integer k).normal (.integer n) = .integer ⟨k, n.val, h⟩ := by
  simp [normal, Value.asSized?, Value.asInt?, SizedInt.of?, h]

/-- A value that is there is read back as the type within says. -/
lemma normal_nullable {t : ColumnType} {v : Value} (h : v ≠ .null) :
    t.nullable.normal v = t.normal v := by
  cases v <;> simp [normal, Value.isNull] at h ⊢

/-- A missing value is read back as none. -/
lemma normal_null (t : ColumnType) : t.normal .null = .null := by
  induction t with
  | nullable t _ => rfl
  | lowCardinality t ih => exact ih
  | _ => rfl

end ColumnType

/-! ## Lengths -/

namespace Value

mutual

/-- Every text has fewer than `2 ^ 64` bytes, and every sequence and map fewer than `2 ^ 64` parts. -/
def Sized : Value → Prop
  | .text s => (utf8 s).length < UInt64.size
  | .array items => items.length < UInt64.size ∧ ItemsSized items
  | .tuple items => ItemsSized items
  | .map entries => entries.length < UInt64.size ∧ EntriesSized entries
  | _ => True

/-- The lengths in each value of a list fit. -/
def ItemsSized : List Value → Prop
  | [] => True
  | v :: vs => v.Sized ∧ ItemsSized vs

/-- The lengths in each pair of a list fit. -/
def EntriesSized : List (Value × Value) → Prop
  | [] => True
  | (k, v) :: rest => k.Sized ∧ v.Sized ∧ EntriesSized rest

end

end Value

end ColumnWire.Cell
