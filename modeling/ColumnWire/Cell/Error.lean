import ColumnWire.Stream.Error

/-!
# Errors of types and values

Why a descriptor is no type, or a value could not be converted, written or read.
-/

namespace ColumnWire.Cell

open ColumnWire.Text ColumnWire.Stream

/-- Why a type or a value was refused. -/
inductive TypeError where
  /-- The descriptor names no type. -/
  | unknownType (descriptor : String)
  /-- The parentheses of the descriptor do not fit together, or something else is wrong with it. -/
  | malformedDescriptor (defect : String)
  /-- A map needs a key type and a value type, and so many types were found. -/
  | mapArguments (found : Nat)
  /-- A tuple type and a tuple value have different numbers of elements. -/
  | tupleArity (type value : Nat)
  /-- There is no value. -/
  | unexpectedNull
  /-- The value is of another kind. -/
  | mismatch (expected found : String)
  /-- The value does not fit. -/
  | outOfRange (target value : String)
  /-- The calendar has no day so far after 1970. -/
  | dayOutOfCalendar (days : UInt64)
  /-- The calendar has no second so far after 1970. -/
  | secondOutOfCalendar (seconds : UInt64)
  /-- The stream failed. -/
  | stream (error : StreamError)
  deriving DecidableEq, Repr

/-- The greatest number of composite types within each other. -/
def maxNesting : Nat := 128

namespace TypeError

/-- What is wrong with composite types that stand within each other too deeply. -/
def nestedTooDeeply : TypeError :=
  .malformedDescriptor s!"nesting deeper than {maxNesting} levels"

/-- The words for an error. -/
def message : TypeError → String
  | .unknownType descriptor => "unknown data type: " ++ quoted descriptor
  | .malformedDescriptor defect => "malformed type descriptor: " ++ quoted defect
  | .mapArguments found => s!"Map expects 2 arguments, got {found}"
  | .tupleArity type value =>
    s!"tuple arity mismatch: type has {type} elements, value has {value}"
  | .unexpectedNull => "unexpected null value"
  | .mismatch expected found => "type mismatch: expected " ++ expected ++ ", got " ++ found
  | .outOfRange target value => "value " ++ value ++ " out of range for " ++ target
  | .dayOutOfCalendar days => s!"invalid date/time: {days} days since epoch"
  | .secondOutOfCalendar seconds => s!"invalid date/time: {seconds} seconds since epoch"
  | .stream error => error.message

/-- Whether the stream failed and not the value. -/
def isStream : TypeError → Bool
  | .stream _ => true
  | _ => false

end TypeError

end ColumnWire.Cell
