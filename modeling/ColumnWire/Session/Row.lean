import ColumnWire.Cell.Target
import ColumnWire.Packet.Block
import ColumnWire.Session.Error

/-!
# Rows

A row has one value for each column of its block. Columns are found by name, the first of several, or
by position, and values are taken as they are or as a target type. A cursor goes through the columns in
order.
-/

namespace ColumnWire.Session

open ColumnWire.Text ColumnWire.Cell ColumnWire.Packet

/-- A row of a block. -/
structure Row where
  /-- The columns of the block. -/
  columns : List Column
  /-- The values. -/
  values : List Value
  /-- There is one value for each column. -/
  width : values.length = columns.length

namespace Row

/-- A row of values, if there is one for each column. -/
def new (columns : List Column) (values : List Value) : Except ClientError Row :=
  if h : values.length = columns.length then .ok ⟨columns, values, h⟩
  else .error (.rowWidth columns.length values.length)

/-- The position of the first column of a name. -/
def indexOf? (r : Row) (name : String) : Option Nat :=
  r.columns.findIdx? (·.name == name)

/-- The value at a position. -/
def getAt? (r : Row) (i : Nat) : Option Value :=
  r.values[i]?

/-- The value of the first column of a name. -/
def get? (r : Row) (name : String) : Option Value :=
  (r.indexOf? name).bind r.getAt?

/-- The value at a position as one of a target type. -/
def getAsAt (r : Row) (t : Target) (i : Nat) : Except ClientError t.Carrier :=
  match r.columns[i]?, r.values[i]? with
  | some c, some v =>
    match t.ofValue v with
    | .ok x => .ok x
    | .error e => .error (.column c.name c.typeName e)
  | _, _ => .error (.columnNotFound ("#" ++ toString i))

/-- The value of the first column of a name as one of a target type. -/
def getAs (r : Row) (t : Target) (name : String) : Except ClientError t.Carrier :=
  match r.indexOf? name with
  | some i => r.getAsAt t i
  | none => .error (.columnNotFound name)

/-- Whether the column of a name holds no value; a column that is not there does not. -/
def isNull (r : Row) (name : String) : Bool :=
  (r.get? name).any Value.isNull

/-- The names of the columns with their values. -/
def pairs (r : Row) : List (String × Value) :=
  (r.columns.map (·.name)).zip r.values

/-- A position on the way through a row. -/
structure Cursor where
  /-- The row. -/
  row : Row
  /-- The column to come. -/
  position : Nat := 0

/-- The way through a row, before its first column. -/
def iter (r : Row) : Cursor where
  row := r

/-- The name and the value to come, and the position behind them. -/
def Cursor.next? (c : Cursor) : Option ((String × Value) × Cursor) := do
  let column ← c.row.columns[c.position]?
  let value ← c.row.values[c.position]?
  pure ((column.name, value), { c with position := c.position + 1 })

/-- The number of values to come. -/
def Cursor.remaining (c : Cursor) : Nat :=
  c.row.values.length - c.position

/-- The developers' text. -/
def inspect (r : Row) : String :=
  "\x7b" ++ String.intercalate ", " (r.pairs.map fun p => quoted p.1 ++ ": " ++ p.2.inspect) ++ "\x7d"

end Row

end ColumnWire.Session
