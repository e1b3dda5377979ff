import ColumnWire.Server.Error
import ColumnWire.Server.Packets

/-!
# Prepared responses

What a server for tests answers to a query: rows between a block that only has the columns and the
counters, an exception, nothing, given bytes, or a response that depends on the text of the query.
-/

namespace ColumnWire.Server

open ColumnWire.Wire ColumnWire.Packet ColumnWire.Cell ColumnWire.Text

/-- A prepared response. -/
inductive Response where
  /-- Rows. -/
  | rows (columns : List Column) (rows : List (List Value))
  /-- An exception. -/
  | error (e : ServerException)
  /-- Nothing. -/
  | empty
  /-- Given bytes. -/
  | raw (bytes : Bytes)
  /-- What the text of the query decides. -/
  | custom (respond : String → Response)

namespace Response

/-- One row with one value. -/
def scalar (column : Column) (value : Value) : Response :=
  .rows [column] [[value]]

/-- The packets of a response of rows. -/
def rowPackets (columns : List Column) (cells : List (List Value)) : List ServerPacket :=
  let count := UInt64.ofNat cells.length
  [.block .data columns [], .block .data columns cells,
    .progress { rows := count, totalRows := count }, .profile { rowsRead := count },
    .code .endOfStream]

/-- The bytes of a response to a query. -/
def encode : Response → String → Except TypeError Bytes
  | .rows columns cells, _ => encodePackets (rowPackets columns cells)
  | .error e, _ => .ok e.encode
  | .empty, _ => .ok ServerCode.endOfStream.encode
  | .raw bytes, _ => .ok bytes
  | .custom respond, query => (respond query).encode query

/-- The developers' text of an exception around the text of its cause. -/
def inspectFault (f : Fault) (cause : String) : String :=
  "ExceptionPacket \x7b code: " ++ toString f.code ++ ", name: " ++ quoted f.name ++
    ", message: " ++ quoted f.message ++ ", stack_trace: " ++ quoted f.stackTrace ++
    ", nested: " ++ cause ++ " \x7d"

/-- The developers' text of an exception with its causes. -/
def inspectException : ServerException → String
  | ⟨f, none⟩ => inspectFault f "None"
  | ⟨f, some cause⟩ => inspectFault f ("Some(" ++ inspectException cause ++ ")")

/-- The developers' text of columns. -/
def inspectColumns (columns : List Column) : String :=
  "[" ++ String.intercalate ", " (columns.map fun c =>
    "MockColumn \x7b name: " ++ quoted c.name ++ ", type_name: " ++ quoted c.typeName ++ " \x7d") ++
    "]"

/-- The developers' text. -/
def inspect : Response → String
  | .rows columns cells =>
    "Rows \x7b columns: " ++ inspectColumns columns ++ ", rows: [" ++
      String.intercalate ", " (cells.map fun r =>
        "[" ++ String.intercalate ", " (r.map Value.inspect) ++ "]") ++ "] \x7d"
  | .error e => "Error(" ++ inspectException e ++ ")"
  | .empty => "Empty"
  | .raw bytes => "Raw(" ++ toString bytes.length ++ ")"
  | .custom _ => "Custom(\"<fn>\")"

end Response

end ColumnWire.Server
