import ColumnWire.Session.Row

/-!
# Blocks

Rows with the same columns. Every row of a block has one value for each column of the block.
-/

namespace ColumnWire.Session

open ColumnWire.Cell ColumnWire.Packet

/-- A part of a result. -/
structure Block where
  /-- The columns. -/
  columns : List Column
  /-- What is known of the block as a whole. -/
  info : BlockInfo := {}
  /-- The values of each row. -/
  rows : List (List Value) := []
  /-- Each row has one value for each column. -/
  width : ∀ r ∈ rows, r.length = columns.length := by simp

namespace Block

/-- A block without rows. -/
def new (columns : List Column) (info : BlockInfo) : Block :=
  { columns, info }

/-- A block of rows, if each of them has one value for each column. -/
def ofRows (columns : List Column) (info : BlockInfo) (rows : List (List Value)) :
    Except ClientError Block :=
  if h : ∀ r ∈ rows, r.length = columns.length then .ok ⟨columns, info, rows, h⟩
  else .error (.rowWidth columns.length
    ((rows.find? fun r => r.length != columns.length).getD []).length)

/-- The block with one more row, if it has one value for each column. -/
def push (b : Block) (values : List Value) : Except ClientError Block :=
  if h : values.length = b.columns.length then
    .ok { b with
      rows := b.rows ++ [values]
      width := by
        intro r hr
        rcases List.mem_append.1 hr with hr | hr
        · exact b.width r hr
        · rw [List.mem_singleton.1 hr, h] }
  else .error (.rowWidth b.columns.length values.length)

/-- Adds a row to a block in place. -/
def pushRow (values : List Value) : EStateM ClientError Block Unit := do
  let b ← get
  match b.push values with
  | .ok c => set c
  | .error e => throw e

/-- The rows of the block. -/
def toRows (b : Block) : List Row :=
  b.rows.attach.map fun r => ⟨b.columns, r.1, b.width r.1 r.2⟩

/-- The number of rows. -/
def rowCount (b : Block) : Nat :=
  b.rows.length

/-- The number of columns. -/
def columnCount (b : Block) : Nat :=
  b.columns.length

/-- The names of the columns. -/
def columnNames (b : Block) : List String :=
  b.columns.map (·.name)

/-- The descriptors of the columns' types. -/
def columnTypes (b : Block) : List String :=
  b.columns.map (·.typeName)

/-- Whether the block has no rows. -/
def isEmpty (b : Block) : Bool :=
  b.rows.isEmpty

end Block

end ColumnWire.Session
