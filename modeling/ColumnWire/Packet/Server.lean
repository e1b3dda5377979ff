import ColumnWire.Packet.Code
import ColumnWire.Wire.Field

/-!
# Packets of a server

Counters and exceptions. The elapsed time of a profile travels in whole milliseconds. An exception holds
the exception that caused it. It travels as links, the outermost first, each with a flag that says whether
another follows; the receiver puts them on a stack (`ServerException.links`) and nests them again from the
top of it (`ServerException.relink`).
-/

namespace ColumnWire.Packet

open ColumnWire.Wire ColumnWire.Number

/-- Counters of the running query. -/
structure Progress where
  /-- Rows so far. -/
  rows : UInt64 := 0
  /-- Bytes so far. -/
  bytes : UInt64 := 0
  /-- Rows there may be in all. -/
  totalRows : UInt64 := 0
  deriving DecidableEq, Repr

namespace Progress

/-- The bytes behind the code. -/
def encodeBody (p : Progress) : Bytes :=
  Varint.encode p.rows ++ (Varint.encode p.bytes ++ Varint.encode p.totalRows)

/-- The whole packet. -/
def encode (p : Progress) : Bytes :=
  ServerCode.progress.encode ++ p.encodeBody

/-- Takes the bytes behind the code. -/
def decoder : Decoder Progress := do
  let rows ← Varint.decoder
  let bytes ← Varint.decoder
  let totalRows ← Varint.decoder
  pure { rows, bytes, totalRows }

end Progress

/-- Counters of the whole query. -/
structure ProfileInfo where
  /-- Rows that were read. -/
  rowsRead : UInt64 := 0
  /-- Bytes that were read. -/
  bytesRead : UInt64 := 0
  /-- Elapsed time in seconds. -/
  elapsedSeconds : Binary64 := ⟨0⟩
  deriving DecidableEq, Repr

namespace ProfileInfo

/-- The milliseconds nearest to a number of seconds. -/
def millis (seconds : Binary64) : UInt64 :=
  (seconds.scale 1000).toUInt64

/-- The number of seconds of a number of milliseconds. -/
def ofMillis (n : UInt64) : Binary64 :=
  (Binary64.ofNat n.toNat).unscale 1000

/-- The bytes behind the code. -/
def encodeBody (p : ProfileInfo) : Bytes :=
  Varint.encode p.rowsRead ++ (Varint.encode p.bytesRead ++
    Varint.encode (millis p.elapsedSeconds))

/-- The whole packet. -/
def encode (p : ProfileInfo) : Bytes :=
  ServerCode.profileInfo.encode ++ p.encodeBody

/-- Takes the bytes behind the code. -/
def decoder : Decoder ProfileInfo := do
  let rowsRead ← Varint.decoder
  let bytesRead ← Varint.decoder
  let elapsed ← Varint.decoder
  pure { rowsRead, bytesRead, elapsedSeconds := ofMillis elapsed }

end ProfileInfo

/-- What one link of an exception says. -/
structure Fault where
  /-- The number of the error. -/
  code : UInt64
  /-- The class of the error. -/
  name : String
  /-- What went wrong. -/
  message : String
  /-- Where the server was. -/
  stackTrace : String
  deriving DecidableEq, Repr

/-- The bytes of a link, with the flag that says whether another follows. -/
def Fault.encodeLink (f : Fault) (more : Bool) : Bytes :=
  Varint.encode f.code ++ (TextField.encode f.name ++ (TextField.encode f.message ++
    (TextField.encode f.stackTrace ++ Varint.encodeFlag more)))

/-- An exception of the server, with the exception that caused it. -/
structure ServerException extends Fault where
  /-- What caused it. -/
  nested : Option ServerException := none
  deriving Repr

namespace ServerException

/-- Whether two exceptions say the same, link for link. -/
def decEq : (a b : ServerException) → Decidable (a = b)
  | ⟨f, none⟩, ⟨g, none⟩ => decidable_of_iff (f = g) (by simp)
  | ⟨f, some c⟩, ⟨g, some d⟩ =>
    have := decEq c d
    decidable_of_iff (f = g ∧ c = d) (by simp)
  | ⟨_, none⟩, ⟨_, some _⟩ => isFalse (by simp)
  | ⟨_, some _⟩, ⟨_, none⟩ => isFalse (by simp)

instance : DecidableEq ServerException := decEq

/-- What the exception and its causes say, the outermost first. -/
def faults : ServerException → List Fault
  | ⟨f, none⟩ => [f]
  | ⟨f, some cause⟩ => f :: cause.faults

/-- An exception without a cause. -/
def bare (f : Fault) : ServerException :=
  { toFault := f }

/-- The bytes behind the code: the links of the exception and of its causes, each before its own
cause. -/
def encodeBody : ServerException → Bytes
  | ⟨f, none⟩ => f.encodeLink false
  | ⟨f, some cause⟩ => f.encodeLink true ++ cause.encodeBody

/-- The whole packet. -/
def encode (e : ServerException) : Bytes :=
  ServerCode.exception.encode ++ e.encodeBody

/-- Takes a link and the flag that says whether another follows. -/
def link : Decoder (Fault × Bool) := do
  let code ← Varint.decoder
  let name ← TextField.decoder
  let message ← TextField.decoder
  let stackTrace ← TextField.decoder
  let more ← Varint.flag
  pure ({ code, name, message, stackTrace }, more)

/-- Takes links up to the last one and puts each, without a cause, on the stack of those before. Every
link takes a byte or more, so `fuel` bytes hold no more than `fuel` links. -/
def links : (fuel : Nat) → List ServerException → Decoder (List ServerException)
  | 0, _ => throw (.incomplete 1)
  | fuel + 1, stack => do
    let (f, more) ← link
    if more then links fuel (bare f :: stack) else pure (bare f :: stack)

/-- Takes exceptions off the stack, the innermost first, and makes each the cause of the next one. -/
def relink : Option ServerException → List ServerException → Option ServerException
  | nested, [] => nested
  | nested, e :: stack => relink (some { e with nested }) stack

/-- The exception whose links are on the stack; there must be one. -/
def assemble (stack : List ServerException) : Decoder ServerException :=
  match relink none stack with
  | some e => pure e
  | none => throw (.malformed .emptyException)

/-- Takes the bytes behind the code. -/
def decoder : Decoder ServerException := fun bytes =>
  (links bytes.length [] >>= assemble) bytes

end ServerException

end ColumnWire.Packet
