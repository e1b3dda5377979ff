import ColumnWire.Cell.Encode
import ColumnWire.Stream.Output

/-!
# Writing values to an output

Writes the value of a cell behind the bytes that are pending: a scalar at once, a composite part by
part. An error stops the writing, and the parts before it stay pending.
-/

namespace ColumnWire.Cell

open ColumnWire.Wire ColumnWire.Stream

/-- An action that writes values. -/
abbrev ValueWriter := EStateM TypeError Output Unit

/-- Adds bytes to the pending ones. -/
def emitBytes (data : Bytes) : ValueWriter :=
  modify fun o => o.write data

/-- Adds the bytes that were written, and stops with the error if one was found. -/
def Written.emit (w : Written) : ValueWriter := do
  emitBytes w.bytes
  match w.error with
  | none => pure ()
  | some e => throw e

namespace ColumnType

mutual

/-- Writes a value in a column of a type behind the pending bytes. -/
def emit : ColumnType → Value → ValueWriter
  | .array t, v =>
    match v with
    | .array items => do
      (countOf items).emit
      forM items t.emit
    | _ => throw (mismatch "Array" v)
  | .tuple ts, v =>
    match v with
    | .tuple items =>
      if items.length = ts.length then emitTuple ts items
      else throw (.tupleArity ts.length items.length)
    | _ => throw (mismatch "Tuple" v)
  | .map tk tv, v =>
    match v with
    | .map entries => do
      (countOf entries).emit
      forM entries fun e => do
        tk.emit e.1
        tv.emit e.2
    | _ => throw (mismatch "Map" v)
  | .nullable t, v =>
    if v.isNull then emitBytes (Varint.encode 1)
    else do
      emitBytes (Varint.encode 0)
      t.emit v
  | .lowCardinality t, v => do
    emitBytes (Varint.encode 1)
    t.emit v
    emitBytes (Varint.encode 0)
  | t, v => (t.write v).emit

/-- Writes the elements of a tuple, each in its type. -/
def emitTuple : List ColumnType → List Value → ValueWriter
  | t :: ts, v :: vs => do
    t.emit v
    emitTuple ts vs
  | _, _ => pure ()

end

end ColumnType

end ColumnWire.Cell
