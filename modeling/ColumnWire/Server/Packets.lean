import ColumnWire.Cell.Descriptor
import ColumnWire.Cell.Encode
import ColumnWire.Packet.Block
import ColumnWire.Packet.Hello
import ColumnWire.Packet.Server

/-!
# Writing responses

The bytes that a server sends, packet after packet. `ServerPacket` lists what can be sent, and
`ServerPacket.encode` writes it; a block is refused if its columns have no types or its rows do not
fit them.
-/

namespace ColumnWire.Server

open ColumnWire.Wire ColumnWire.Packet ColumnWire.Cell ColumnWire.Number

/-- The kinds of blocks in a response. -/
inductive BlockKind where
  /-- Rows of the result. -/
  | data
  /-- Totals. -/
  | totals
  /-- Extremes. -/
  | extremes
  deriving DecidableEq, Repr

/-- The code of a kind of block. -/
def BlockKind.code : BlockKind → ServerCode
  | .data => .data
  | .totals => .totals
  | .extremes => .extremes

/-- A packet of a server. -/
inductive ServerPacket where
  /-- The greeting. -/
  | hello (h : ServerHello)
  /-- A block of rows. -/
  | block (kind : BlockKind) (columns : List Column) (rows : List (List Value))
  /-- Counters of the running query. -/
  | progress (p : Progress)
  /-- Counters of the whole query. -/
  | profile (p : ProfileInfo)
  /-- An exception. -/
  | exception (e : ServerException)
  /-- A code with nothing behind it. -/
  | code (c : ServerCode)
  /-- Any bytes. -/
  | raw (bytes : Bytes)

/-- The column with a type that allows missing values. -/
def nullableColumn (c : Column) : Column :=
  { c with typeName := "Nullable(" ++ c.typeName ++ ")" }

/-- Writes the cells of a row, each in the type of its column. -/
def encodeCells : List ColumnType → List Value → Except TypeError Bytes
  | t :: ts, v :: vs => do
    let cell ← (t.write v).toExcept
    let rest ← encodeCells ts vs
    pure (cell ++ rest)
  | _, _ => pure []

/-- Writes a row, which must have one value for each column. -/
def encodeRow (types : List ColumnType) (row : List Value) : Except TypeError Bytes :=
  if row.length = types.length then encodeCells types row
  else .error (.tupleArity types.length row.length)

/-- Writes a block of rows behind the code of its kind and an empty table name. -/
def encodeBlock (kind : BlockKind) (columns : List Column) (rows : List (List Value)) :
    Except TypeError Bytes := do
  let types ← columns.mapM fun c => ColumnType.parse c.typeName
  let header : BlockHeader := { columns, rows := UInt64.ofNat rows.length }
  let cells ← rows.mapM (encodeRow types)
  pure (kind.code.encode ++ TextField.encode "" ++ header.encode ++ cells.flatten)

/-- Writes a packet. -/
def ServerPacket.encode : ServerPacket → Except TypeError Bytes
  | .hello h => .ok h.encode
  | .block kind columns rows => encodeBlock kind columns rows
  | .progress p => .ok p.encode
  | .profile p => .ok p.encode
  | .exception e => .ok e.encode
  | .code c => .ok c.encode
  | .raw bytes => .ok bytes

/-- Writes packets one behind the other. -/
def encodePackets (packets : List ServerPacket) : Except TypeError Bytes := do
  let parts ← packets.mapM ServerPacket.encode
  pure parts.flatten

end ColumnWire.Server
