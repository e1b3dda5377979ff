import ColumnWire.Packet.Hello
import ColumnWire.Packet.Query
import ColumnWire.Packet.Block

/-!
# Packets of a client

What a server reads from a client. A query and the empty block behind it, which has no code of its
own, are read as one packet.
-/

namespace ColumnWire.Packet

open ColumnWire.Wire

/-- A packet of a client. -/
inductive ClientPacket where
  /-- The greeting. -/
  | hello (hello : ClientHello)
  /-- A query with its empty block. -/
  | query (query : Query)
  /-- An empty block of data for a table. -/
  | data (table : String) (info : BlockInfo)
  /-- The request to stop the running query. -/
  | cancel
  /-- The request for a sign of life. -/
  | ping
  deriving DecidableEq, Repr

namespace ClientPacket

/-- The code of a packet. -/
def code : ClientPacket → ClientCode
  | .hello _ => .hello
  | .query _ => .query
  | .data _ _ => .data
  | .cancel => .cancel
  | .ping => .ping

/-- Takes what follows a code. -/
def body : ClientCode → Decoder ClientPacket
  | .hello => do
    let h ← ClientHello.decoder
    pure (.hello h)
  | .query => do
    let q ← Query.decoder
    let _ ← emptyBlock
    pure (.query q)
  | .data => do
    let table ← TextField.decoder
    let info ← emptyBlock
    pure (.data table info)
  | .cancel => pure .cancel
  | .ping => pure .ping

/-- Takes a packet with its code. -/
def decoder : Decoder ClientPacket := do
  let code ← numbered ClientCode.ofNumber?
  body code

/-- The bytes of a packet. -/
def encode : ClientPacket → Bytes
  | .hello h => h.encode
  | .query q => q.encode ++ encodeEmptyBlock
  | .data table info =>
    ClientCode.data.encode ++ (TextField.encode table ++ (info.encode ++
      (Varint.encode 0 ++ Varint.encode 0)))
  | .cancel => ClientCode.cancel.encode
  | .ping => ClientCode.ping.encode

end ClientPacket

end ColumnWire.Packet
