import Mathlib.Data.List.Forall2
import Mathlib.Tactic.Common
import ColumnWire.Proofs.Cell.Normal
import ColumnWire.Proofs.Wire.Action

/-!
# Values of a type

`Inhabits t v` says that a value is one of a type: of a scalar type its own kind of value and width, of
a composite one made of values of its parts, and no value at all only where the type is nullable
(`Inhabits.null_iff`). Whatever the bytes are, a value that is read in a column of a type is one of that
type (`ColumnType.read_inhabits`).
-/

namespace ColumnWire.Cell

open ColumnWire.Wire ColumnWire.Number ColumnWire.Time ColumnWire.Stream

/-- The value is one of the type, as it can be read. -/
inductive Inhabits : ColumnType → Value → Prop where
  /-- A text. -/
  | text (s : String) : Inhabits .text (.text s)
  /-- An integer of the type. -/
  | integer {k : IntegerType} {n : SizedInt} (h : n.type = k) : Inhabits (.integer k) (.integer n)
  /-- A single-precision number. -/
  | float32 (x : Binary32) : Inhabits .float32 (.float32 x)
  /-- A double-precision number. -/
  | float64 (x : Binary64) : Inhabits .float64 (.float64 x)
  /-- A day from 1970 on. -/
  | date {d : Date} (h : 0 ≤ d.day) : Inhabits .date (.date d)
  /-- A whole second from 1970 on. -/
  | dateTime {t : Moment} (h : 0 ≤ t.seconds) (hwhole : t.nanos = 0) :
      Inhabits .dateTime (.dateTime t)
  /-- A sequence of values of the type of its elements. -/
  | array {t : ColumnType} {items : List Value} (h : ∀ v ∈ items, Inhabits t v) :
      Inhabits (.array t) (.array items)
  /-- As many values as there are types, each of its own. -/
  | tuple {ts : List ColumnType} {items : List Value} (h : List.Forall₂ Inhabits ts items) :
      Inhabits (.tuple ts) (.tuple items)
  /-- Keys and values of their types. -/
  | map {tk tv : ColumnType} {entries : List (Value × Value)}
      (hkey : ∀ e ∈ entries, Inhabits tk e.1) (hvalue : ∀ e ∈ entries, Inhabits tv e.2) :
      Inhabits (.map tk tv) (.map entries)
  /-- No value. -/
  | null (t : ColumnType) : Inhabits (.nullable t) .null
  /-- A value where there may be none. -/
  | nullable {t : ColumnType} {v : Value} (h : Inhabits t v) : Inhabits (.nullable t) v
  /-- A value from a dictionary. -/
  | lowCardinality {t : ColumnType} {v : Value} (h : Inhabits t v) : Inhabits (.lowCardinality t) v

/-- Only of a nullable type there may be no value. -/
lemma Inhabits.null_iff {t : ColumnType} : Inhabits t .null ↔ t.isNullable = true := by
  constructor
  · intro h
    induction t with
    | nullable t _ => rfl
    | lowCardinality t ih =>
        cases h with
        | lowCardinality h => exact ih h
    | _ => cases h
  · intro h
    induction t with
    | nullable t _ => exact .null t
    | lowCardinality t ih => exact .lowCardinality (ih h)
    | _ => cases h

/-- The integer that a number stands for is of the type. -/
lemma IntegerType.type_of_ofPattern {k : IntegerType} {raw : UInt64} {n : SizedInt}
    (h : k.ofPattern raw = some n) : n.type = k := by
  unfold ofPattern at h
  split at h
  · obtain ⟨i, _, hi⟩ := Option.bind_eq_some_iff.1 h
    exact (SizedInt.of?_eq_some_iff.1 hi).1
  · exact (SizedInt.of?_eq_some_iff.1 h).1

/-- An integer that is read is of the type. -/
lemma readInteger_inhabits (k : IntegerType) : Yields (Inhabits (.integer k)) (readInteger k) := by
  refine (Yields.any _).bind fun raw _ => ?_
  cases hraw : k.ofPattern raw with
  | none => exact Yields.throw _
  | some n => exact Yields.pure (.integer (IntegerType.type_of_ofPattern hraw))

/-- A day that is read is not before 1970. -/
lemma readDate_inhabits : Yields (Inhabits .date) readDate := by
  refine (Yields.any _).bind fun days _ => ?_
  cases hday : Date.ofDay? days.toNat with
  | none => exact Yields.throw _
  | some d =>
      refine Yields.pure (.date ?_)
      unfold Date.ofDay? at hday
      split at hday <;> cases hday
      exact Int.natCast_nonneg _

/-- A moment that is read is a whole second and not before 1970. -/
lemma readDateTime_inhabits : Yields (Inhabits .dateTime) readDateTime := by
  refine (Yields.any _).bind fun seconds _ => ?_
  cases hmoment : Moment.ofSeconds? seconds.toNat 0 with
  | none => exact Yields.throw _
  | some t =>
      unfold Moment.ofSeconds? at hmoment
      split at hmoment <;> cases hmoment
      exact Yields.pure (.dateTime (Int.natCast_nonneg _) rfl)

namespace ColumnType

/-- The elements of a tuple that are read are each of its type. -/
lemma readTuple_inhabits {ts : List ColumnType} (h : ∀ t ∈ ts, Yields (Inhabits t) t.read) :
    Yields (List.Forall₂ Inhabits ts) (readTuple ts) := by
  induction ts with
  | nil => exact Yields.pure .nil
  | cons t ts ih =>
      refine (h t List.mem_cons_self).bind fun v hv => ?_
      refine (ih fun u hu => h u (List.mem_cons_of_mem t hu)).bind fun vs hvs => ?_
      exact Yields.pure (.cons hv hvs)

/-- A value that is read in a column of a type is one of the type. -/
theorem read_inhabits (t : ColumnType) : Yields (Inhabits t) t.read := by
  induction t with
  | text => exact (Yields.any _).bind fun s _ => Yields.pure (.text s)
  | integer k => exact readInteger_inhabits k
  | float32 => exact (Yields.any _).bind fun x _ => Yields.pure (.float32 x)
  | float64 => exact (Yields.any _).bind fun x _ => Yields.pure (.float64 x)
  | date => exact readDate_inhabits
  | dateTime => exact readDateTime_inhabits
  | array t ih =>
      refine (Yields.any _).bind fun count _ => (ih.repeated count.toNat).bind fun items hitems => ?_
      exact Yields.pure (.array hitems.2)
  | tuple ts ih => exact (readTuple_inhabits ih).bind fun items hitems => Yields.pure (.tuple hitems)
  | map tk tv ihk ihv =>
      have hentry : Yields (fun e => Inhabits tk e.1 ∧ Inhabits tv e.2)
          (readEntry tk.read tv.read) :=
        ihk.bind fun k hk => ihv.bind fun v hv => Yields.pure ⟨hk, hv⟩
      refine (Yields.any _).bind fun count _ => (hentry.repeated count.toNat).bind fun es hes => ?_
      exact Yields.pure (.map (fun e he => (hes.2 e he).1) fun e he => (hes.2 e he).2)
  | nullable t ih =>
      refine (Yields.any _).bind fun isNull _ => ?_
      split
      · exact Yields.pure (.null t)
      · exact fun s v u hv => .nullable (ih s v u hv)
  | lowCardinality t ih =>
      refine (Yields.any _).bind fun size _ => (ih.repeated size.toNat).bind fun entries hentries => ?_
      refine (Yields.any _).bind fun index _ => ?_
      cases hfound : entries[index.toNat]? with
      | none => exact Yields.throw _
      | some v => exact Yields.pure (.lowCardinality (hentries.2 v (List.mem_of_getElem? hfound)))

end ColumnType

end ColumnWire.Cell
