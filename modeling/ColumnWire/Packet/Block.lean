import ColumnWire.Wire.Field

/-!
# Framing of blocks

A block of data begins with its information (a sequence of tagged fields up to an end tag) and a
header: names of temporary tables, the numbers of columns and rows, and name and type of each column.
The values behind the header depend on those types. The block that a client sends with a query is
empty.
-/

namespace ColumnWire.Packet

open ColumnWire.Wire

/-- What is known of a block as a whole. -/
structure BlockInfo where
  /-- The rows are those past the limit of groups. -/
  isOverflows : Bool := false
  /-- The bucket of a two-level aggregation. -/
  bucketNum : UInt64 := 0
  deriving DecidableEq, Repr

namespace BlockInfo

/-- The tagged fields and the end tag. -/
def encode (i : BlockInfo) : Bytes :=
  Varint.encode 1 ++ (Varint.encodeFlag i.isOverflows ++
    (Varint.encode 2 ++ (Varint.encode i.bucketNum ++ Varint.encode 0)))

/-- Takes tagged fields up to the end tag; of a field that comes again the last counts. Every field
takes a byte or more, so `fuel` bytes hold no more than `fuel` fields. -/
def decodeFields : (fuel : Nat) → BlockInfo → Decoder BlockInfo
  | 0, _ => throw (.incomplete 1)
  | fuel + 1, info => do
    let tag ← Varint.decoder
    match tag.toNat with
    | 0 => pure info
    | 1 => do
      let v ← Varint.flag
      decodeFields fuel { info with isOverflows := v }
    | 2 => do
      let v ← Varint.decoder
      decodeFields fuel { info with bucketNum := v }
    | _ => throw (.unknownBlockField tag)

/-- Takes the information of a block. -/
def decoder : Decoder BlockInfo := fun bytes =>
  decodeFields bytes.length {} bytes

end BlockInfo

/-- The empty block that follows a query. -/
def encodeEmptyBlock : Bytes :=
  ({} : BlockInfo).encode ++ (Varint.encode 0 ++ Varint.encode 0)

/-- Takes a block that has to be empty. -/
def emptyBlock : Decoder BlockInfo := do
  let info ← BlockInfo.decoder
  let columns ← Varint.decoder
  let rows ← Varint.decoder
  if columns ≠ 0 ∨ rows ≠ 0 then throw (.malformed (.occupiedBlock columns rows))
  pure info

/-- A column as a block declares it. -/
structure Column where
  /-- The name of the column. -/
  name : String
  /-- The descriptor of its type. -/
  typeName : String
  deriving DecidableEq, Repr

/-- The header of a block from the server. -/
structure BlockHeader where
  /-- The information about the block. -/
  info : BlockInfo := {}
  /-- The names of temporary tables. -/
  temporaryTables : List String := []
  /-- The columns, in the order of their values. -/
  columns : List Column := []
  /-- The number of rows that follow. -/
  rows : UInt64 := 0
  deriving DecidableEq, Repr

namespace BlockHeader

/-- The bytes of a header. -/
def encode (h : BlockHeader) : Bytes :=
  h.info.encode ++ (Varint.encode (UInt64.ofNat h.temporaryTables.length) ++
    (h.temporaryTables.flatMap TextField.encode ++
      (Varint.encode (UInt64.ofNat h.columns.length) ++ (Varint.encode h.rows ++
        h.columns.flatMap fun c => TextField.encode c.name ++ TextField.encode c.typeName))))

/-- Takes the declaration of a column. -/
def column : Decoder Column := do
  let name ← TextField.decoder
  let typeName ← TextField.decoder
  pure { name, typeName }

/-- Takes a header. Rows without columns are refused before any column is read. -/
def decoder : Decoder BlockHeader := do
  let info ← BlockInfo.decoder
  let tables ← Varint.decoder
  let temporaryTables ← repeated tables.toNat TextField.decoder
  let count ← Varint.decoder
  let rows ← Varint.decoder
  if count = 0 ∧ 0 < rows then throw (.malformed (.rowsWithoutColumns rows))
  let columns ← repeated count.toNat column
  pure { info, temporaryTables, columns, rows }

end BlockHeader

end ColumnWire.Packet
