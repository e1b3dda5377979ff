import ColumnWire.Cell.Decode
import ColumnWire.Packet.Block
import ColumnWire.Packet.Server
import ColumnWire.Session.Result
import ColumnWire.Session.TypeCache

/-!
# Responses

Receiving the answer to a query: packets up to the end of the answer, an exception, or the end of the
stream between two packets. Codes without a meaning are passed over. An exception that the end of the
stream cuts short is reported as an unknown one.
-/

namespace ColumnWire.Session

open ColumnWire.Wire ColumnWire.Packet ColumnWire.Cell ColumnWire.Stream

/-- What receiving works on. -/
structure Receiver where
  /-- The input. -/
  input : Input
  /-- The types that are known already. -/
  types : TypeCache

/-- An action that receives. -/
abbrev Receive := EStateM ClientError Receiver

/-- Reads from the input. -/
def reading {α : Type} (r : Reader α) : Receive α := fun s =>
  match r s.input with
  | .ok a i => .ok a { s with input := i }
  | .error e i => .error (.stream e) { s with input := i }

/-- Reads the value of a column. -/
def readingCell (c : Column) (t : ColumnType) : Receive Value := fun s =>
  match t.read s.input with
  | .ok v i => .ok v { s with input := i }
  | .error e i => .error (.column c.name c.typeName e) { s with input := i }

/-- Looks the type of a column up. -/
def resolve (c : Column) : Receive (Column × ColumnType) := fun s =>
  match s.types.get c.typeName with
  | (.ok t, types) => .ok (c, t) { s with types }
  | (.error e, types) => .error (.column c.name c.typeName e) { s with types }

/-- Receives the values of a row, one for each column. -/
def receiveRow (columns : List (Column × ColumnType)) : Receive (List Value) :=
  forEach (fun p => readingCell p.1 p.2) columns

/-- Receives a block; the names of temporary tables are not kept. -/
def receiveBlockBody : Receive Block := do
  let header ← reading (Input.readFrame BlockHeader.decoder)
  let columns ← forEach resolve header.columns
  let rows ← repeated header.rows.toNat (receiveRow columns)
  match Block.ofRows header.columns header.info rows with
  | .ok b => pure b
  | .error e => throw e

/-- Receives a table name, which is not kept, and a block. -/
def receiveBlock : Receive Block := do
  let _ ← reading Input.readText
  receiveBlockBody

/-- Reads an exception; one that the stream does not finish is an unknown one. -/
def readException : Reader RemoteError := fun s =>
  match Input.readFrame ServerException.decoder s with
  | .ok e s' => .ok (.ofException e) s'
  | .error e s' => if e.isEnd then .ok .unknown s' else .error e s'

/-- Receives packets until the answer ends. Every packet takes a byte or more, so `fuel` bytes hold no
more than `fuel` packets. -/
def receivePackets : (fuel : Nat) → QueryResult → Receive QueryResult
  | 0, r => do
    let _ ← reading Input.atEnd
    pure r
  | fuel + 1, r => do
    let ended ← reading Input.atEnd
    if ended then pure r
    else
      let raw ← reading Input.readVarint
      match ServerCode.ofNumber? raw with
      | .ok .data => do
        let b ← receiveBlock
        receivePackets fuel { r with blocks := r.blocks ++ [b] }
      | .ok .totals => do
        let b ← receiveBlock
        receivePackets fuel { r with totals := some b }
      | .ok .extremes => do
        let b ← receiveBlock
        receivePackets fuel { r with extremes := some b }
      | .ok .progress => do
        let p ← reading (Input.readFrame Progress.decoder)
        receivePackets fuel { r with progress := p }
      | .ok .profileInfo => do
        let p ← reading (Input.readFrame ProfileInfo.decoder)
        receivePackets fuel { r with profile := p }
      | .ok .exception => do
        let e ← reading readException
        pure { r with exception := some e }
      | .ok .endOfStream => pure r
      | _ => receivePackets fuel r

/-- Receives the answer to a query. -/
def receiveResult : Receive QueryResult := fun s =>
  receivePackets s.input.unreadCount {} s

end ColumnWire.Session
