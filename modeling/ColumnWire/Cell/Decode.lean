import ColumnWire.Cell.ColumnType
import ColumnWire.Cell.Error
import ColumnWire.Cell.Value
import ColumnWire.Number.Wrap
import ColumnWire.Stream.Input

/-!
# Reading values

Reads the value of a cell in a column of a given type. Numbers outside the range of their type, days
and seconds outside the calendar and indices outside their dictionary are errors. What was read before
an error stays read.
-/

namespace ColumnWire.Cell

open ColumnWire.Wire ColumnWire.Number ColumnWire.Time ColumnWire.Stream

/-- An action that reads values. -/
abbrev ValueReader := EStateM TypeError Input

/-- Runs a plain read among reads of values. -/
def plain {α : Type} (r : Reader α) : ValueReader α := fun s =>
  match r s with
  | .ok a s' => .ok a s'
  | .error e s' => .error (.stream e) s'

/-- The integer of a type that a number stands for, if there is one. -/
def IntegerType.ofPattern (k : IntegerType) (raw : UInt64) : Option SizedInt :=
  if k.isSigned then (wrapSigned raw k.bits).bind fun i => SizedInt.of? k i.toInt
  else SizedInt.of? k raw.toNat

/-- Reads an integer. -/
def readInteger (k : IntegerType) : ValueReader Value := do
  let raw ← plain Input.readVarint
  match k.ofPattern raw with
  | some n => pure (.integer n)
  | none => throw (.outOfRange k.name (toString raw))

/-- Reads a day. -/
def readDate : ValueReader Value := do
  let days ← plain Input.readVarint
  match Date.ofDay? days.toNat with
  | some d => pure (.date d)
  | none => throw (.dayOutOfCalendar days)

/-- Reads a moment. -/
def readDateTime : ValueReader Value := do
  let seconds ← plain Input.readVarint
  match Moment.ofSeconds? seconds.toNat 0 with
  | some t => pure (.dateTime t)
  | none => throw (.secondOutOfCalendar seconds)

/-- Reads a key and a value. -/
def readEntry (key value : ValueReader Value) : ValueReader (Value × Value) := do
  let k ← key
  let v ← value
  pure (k, v)

namespace ColumnType

mutual

/-- Reads a value in a column of a type. -/
def read : ColumnType → ValueReader Value
  | .text => do
    let s ← plain Input.readText
    pure (.text s)
  | .integer k => readInteger k
  | .float32 => do
    let x ← plain Input.readBinary32
    pure (.float32 x)
  | .float64 => do
    let x ← plain Input.readBinary64
    pure (.float64 x)
  | .date => readDate
  | .dateTime => readDateTime
  | .array t => do
    let count ← plain Input.readVarint
    let items ← repeated count.toNat t.read
    pure (.array items)
  | .tuple ts => do
    let items ← readTuple ts
    pure (.tuple items)
  | .map tk tv => do
    let count ← plain Input.readVarint
    let entries ← repeated count.toNat (readEntry tk.read tv.read)
    pure (.map entries)
  | .nullable t => do
    let isNull ← plain Input.readVarint
    if isNull ≠ 0 then pure .null else t.read
  | .lowCardinality t => do
    let size ← plain Input.readVarint
    let dictionary ← repeated size.toNat t.read
    let index ← plain Input.readVarint
    match dictionary[index.toNat]? with
    | some v => pure v
    | none => throw (.outOfRange "LowCardinality index" (toString index))

/-- Reads the elements of a tuple, each in its type. -/
def readTuple : List ColumnType → ValueReader (List Value)
  | [] => pure []
  | t :: ts => do
    let v ← t.read
    let vs ← readTuple ts
    pure (v :: vs)

end

end ColumnType

end ColumnWire.Cell
