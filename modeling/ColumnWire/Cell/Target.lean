import ColumnWire.Cell.Encode

/-!
# Typed access to values

A `Target` names a type of the host program, and `Target.Carrier` is that type. `Target.ofValue` takes
a value of a cell as one of the target, and `Target.toValue` is the way back. An integer target takes
integers of every type that it has; an optional one takes a missing value as none.
-/

namespace ColumnWire.Cell

open ColumnWire.Number ColumnWire.Time

/-- A type that values can be taken as. -/
inductive Target where
  /-- Integers of one of the eight types. -/
  | integer (type : IntegerType)
  /-- Single-precision numbers. -/
  | float32
  /-- Double-precision numbers. -/
  | float64
  /-- Texts. -/
  | text
  /-- Days. -/
  | date
  /-- Moments. -/
  | moment
  /-- Values as they are. -/
  | value
  /-- One of the inner type, or none. -/
  | option (inner : Target)
  /-- Any number of the inner type. -/
  | list (inner : Target)
  deriving DecidableEq, Repr

/-- The short name of an integer type. -/
def IntegerType.shortName : IntegerType → String
  | .uint8 => "u8"
  | .uint16 => "u16"
  | .uint32 => "u32"
  | .uint64 => "u64"
  | .int8 => "i8"
  | .int16 => "i16"
  | .int32 => "i32"
  | .int64 => "i64"

namespace Target

/-- The type that a target names. -/
def Carrier : Target → Type
  | .integer k => { i : Int // k.Holds i }
  | .float32 => Binary32
  | .float64 => Binary64
  | .text => String
  | .date => Date
  | .moment => Moment
  | .value => Value
  | .option t => Option t.Carrier
  | .list t => List t.Carrier

/-- Takes an integer as one of a type. -/
def integerOfValue (k : IntegerType) (v : Value) : Except TypeError { i : Int // k.Holds i } :=
  match v.asInt? with
  | none => .error (mismatch k.shortName v)
  | some i =>
    if h : k.Holds i then .ok ⟨i, h⟩ else .error (.outOfRange k.shortName (toString i))

/-- Takes a day, or the day of a moment. -/
def dateOfValue (v : Value) : Except TypeError Date :=
  match v with
  | .date d => .ok d
  | .dateTime t => .ok t.date
  | _ => .error (mismatch "NaiveDate" v)

/-- What an accessor gives, or the error for a value of another kind. -/
def orMismatch {α : Type} (expected : String) (v : Value) : Option α → Except TypeError α
  | some a => .ok a
  | none => .error (mismatch expected v)

/-- Takes a value as one of the target. -/
def ofValue : (t : Target) → Value → Except TypeError t.Carrier
  | .integer k, v => integerOfValue k v
  | .float32, v =>
    match v with
    | .float32 x => .ok x
    | _ => .error (mismatch "f32" v)
  | .float64, v => orMismatch "f64" v v.asBinary64?
  | .text, v => orMismatch "String" v v.asText?
  | .date, v => dateOfValue v
  | .moment, v => orMismatch "DateTime<Utc>" v v.asMoment?
  | .value, v => .ok v
  | .option t, v =>
    if v.isNull then .ok none
    else
      match t.ofValue v with
      | .ok x => .ok (some x)
      | .error e => .error e
  | .list t, v =>
    match v with
    | .array items => items.mapM t.ofValue
    | _ => .error (mismatch "Vec" v)

/-- The value of a cell that stands for one of the target. -/
def toValue : (t : Target) → t.Carrier → Value
  | .integer k, ⟨i, h⟩ => .integer ⟨k, i, h⟩
  | .float32, x => .float32 x
  | .float64, x => .float64 x
  | .text, s => .text s
  | .date, d => .date d
  | .moment, t => .dateTime t
  | .value, v => v
  | .option _, none => .null
  | .option t, some x => t.toValue x
  | .list t, xs => .array (List.map t.toValue xs)

end Target

end ColumnWire.Cell
