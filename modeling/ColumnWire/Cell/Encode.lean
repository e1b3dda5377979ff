import ColumnWire.Cell.ColumnType
import ColumnWire.Cell.Error
import ColumnWire.Cell.Value
import ColumnWire.Number.Wrap
import ColumnWire.Wire.Field

/-!
# Writing values

The bytes of a value in a column of a given type. Integers of every type are written where they fit,
and numbers of both precisions in either. Writing only adds bytes; those written before an error stay.
-/

namespace ColumnWire.Cell

open ColumnWire.Wire ColumnWire.Number

/-- What writing a value gives: its bytes, which end where an error was found. -/
structure Written where
  /-- The bytes. -/
  bytes : Bytes
  /-- The error, if one was found. -/
  error : Option TypeError := none

namespace Written

/-- Only an error. -/
def refuse (e : TypeError) : Written :=
  ⟨[], some e⟩

/-- First the one, then, if it has no error, the other. -/
def andThen (a b : Written) : Written :=
  match a.error with
  | some _ => a
  | none => ⟨a.bytes ++ b.bytes, b.error⟩

/-- The bytes, if there is no error. -/
def toExcept (w : Written) : Except TypeError Bytes :=
  match w.error with
  | some e => .error e
  | none => .ok w.bytes

end Written

/-- The error for a value of another kind than expected. -/
def mismatch (expected : String) (v : Value) : TypeError :=
  if v.isNull then .unexpectedNull else .mismatch expected v.kindName

/-- The number that stands for an integer of a type: itself, or its pattern in the width of the type
if the type is signed. -/
def IntegerType.pattern (k : IntegerType) (i : Int) : UInt64 :=
  if k.isSigned then unwrapSigned (Int64.ofInt i) k.bits else UInt64.ofNat i.toNat

/-- Writes an integer. -/
def writeInteger (k : IntegerType) (v : Value) : Written :=
  match v.asInt? with
  | none => .refuse (mismatch k.name v)
  | some i =>
    if k.Holds i then ⟨Varint.encode (k.pattern i), none⟩
    else .refuse (.outOfRange k.name (toString i))

/-- Writes a day as the number of days since 1970, which must not be negative. -/
def writeDate (v : Value) : Written :=
  match v.asDate? with
  | none => .refuse (mismatch "Date" v)
  | some d =>
    if d.day < 0 then .refuse (.outOfRange "Date" d.text)
    else ⟨Varint.encode (UInt64.ofNat d.day.toNat), none⟩

/-- Writes a moment as the number of whole seconds since 1970, which must not be negative. -/
def writeDateTime (v : Value) : Written :=
  match v.asMoment? with
  | none => .refuse (mismatch "DateTime" v)
  | some t =>
    if t.seconds < 0 then .refuse (.outOfRange "DateTime" (t.stamp "+00:00"))
    else ⟨Varint.encode (UInt64.ofNat t.seconds.toNat), none⟩

/-- Writes each value of a list in turn. -/
def writeItems (write : Value → Written) : List Value → Written
  | [] => ⟨[], none⟩
  | v :: vs => (write v).andThen (writeItems write vs)

/-- Writes each pair of a list in turn. -/
def writeEntries (writeKey writeValue : Value → Written) : List (Value × Value) → Written
  | [] => ⟨[], none⟩
  | (k, v) :: rest =>
    (writeKey k).andThen ((writeValue v).andThen (writeEntries writeKey writeValue rest))

/-- The number of parts before they follow. -/
def countOf {α : Type} (parts : List α) : Written :=
  ⟨Varint.encode (UInt64.ofNat parts.length), none⟩

namespace ColumnType

mutual

/-- Writes a value in a column of a type. -/
def write : ColumnType → Value → Written
  | .integer k, v => writeInteger k v
  | .float32, v =>
    match v with
    | .float32 x => ⟨encodeBinary32 x, none⟩
    | .float64 x => ⟨encodeBinary32 x.toBinary32, none⟩
    | _ => .refuse (mismatch "Float32" v)
  | .float64, v =>
    match v.asBinary64? with
    | some x => ⟨encodeBinary64 x, none⟩
    | none => .refuse (mismatch "Float64" v)
  | .text, v =>
    match v.asText? with
    | some s => ⟨TextField.encode s, none⟩
    | none => .refuse (mismatch "String" v)
  | .date, v => writeDate v
  | .dateTime, v => writeDateTime v
  | .array t, v =>
    match v with
    | .array items => (countOf items).andThen (writeItems t.write items)
    | _ => .refuse (mismatch "Array" v)
  | .tuple ts, v =>
    match v with
    | .tuple items =>
      if items.length = ts.length then writeTuple ts items
      else .refuse (.tupleArity ts.length items.length)
    | _ => .refuse (mismatch "Tuple" v)
  | .map tk tv, v =>
    match v with
    | .map entries => (countOf entries).andThen (writeEntries tk.write tv.write entries)
    | _ => .refuse (mismatch "Map" v)
  | .nullable t, v =>
    if v.isNull then ⟨Varint.encode 1, none⟩
    else (⟨Varint.encode 0, none⟩ : Written).andThen (t.write v)
  | .lowCardinality t, v =>
    (⟨Varint.encode 1, none⟩ : Written).andThen ((t.write v).andThen ⟨Varint.encode 0, none⟩)

/-- Writes the elements of a tuple, each in its type. -/
def writeTuple : List ColumnType → List Value → Written
  | t :: ts, v :: vs => (t.write v).andThen (writeTuple ts vs)
  | _, _ => ⟨[], none⟩

end

/-- Integers are written by their kind. -/
theorem write_integer (k : IntegerType) (v : Value) : write (.integer k) v = writeInteger k v := by
  rw [write]

/-- Days are written as numbers. -/
theorem write_date (v : Value) : write .date v = writeDate v := by
  rw [write]

/-- So are moments. -/
theorem write_dateTime (v : Value) : write .dateTime v = writeDateTime v := by
  rw [write]

end ColumnType

end ColumnWire.Cell
