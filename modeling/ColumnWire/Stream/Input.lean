import ColumnWire.Stream.Transport
import ColumnWire.Wire.Field

/-!
# Input

Reading from a transport through a buffer. Every read looks at the buffered bytes first and asks the
transport for more only while they are too few: `await` is that loop, and each read gives it what to
look for. A request to the transport is for 4096 to 65536 bytes whatever length the peer claims.

The reads are written over any state that has an input in it (`Source`), which says how the transport is
asked for bytes.
-/

namespace ColumnWire.Stream

open ColumnWire.Wire ColumnWire.Number

/-- The least number of bytes that are asked for at once. -/
def minRequest : Nat := 4096

/-- A transport with the bytes that were received and not read yet. -/
structure Input where
  /-- The transport. -/
  transport : Transport
  /-- The buffered bytes. -/
  buffer : Bytes := []

/-- An action that reads. -/
abbrev Reader := EStateM StreamError Input

/-- What a look at the buffered bytes tells. -/
inductive Sight (α : Type) where
  /-- A value, and the bytes behind it. -/
  | found (value : α) (rest : Bytes)
  /-- So many more bytes are needed. -/
  | short (missing : Nat)
  /-- More bytes do not help. -/
  | refused (error : WireError)

namespace Input

/-- The number of buffered bytes. -/
def buffered (s : Input) : Nat :=
  s.buffer.length

/-- The bytes that can still be read: those in the buffer and those that wait at the peer. -/
def unread (s : Input) : Bytes :=
  s.buffer ++ (s.transport.peer.map Peer.outstanding).getD []

/-- The number of bytes that can still be read. -/
def unreadCount (s : Input) : Nat :=
  s.buffer.length + s.transport.outstandingCount

/-- The input without its buffered bytes. -/
def clear (s : Input) : Input :=
  { s with buffer := [] }

/-- Runs an action of the transport. -/
def onTransport {α : Type} (action : EStateM StreamError Transport α) : Reader α := fun s =>
  match action s.transport with
  | .ok a t => .ok a { s with transport := t }
  | .error e t => .error e { s with transport := t }

/-- The number of bytes to ask for when `missing` are needed. -/
def request (missing : Nat) : Nat :=
  min (max missing minRequest) maxReceive

end Input

/-- A state with an input in it, and how the transport of that is asked for bytes. -/
class Source (σ : Type) where
  /-- The input. -/
  input : σ → Input
  /-- The state with other bytes in the buffer. -/
  withBuffer : Bytes → σ → σ
  /-- Receives at most so many bytes once. -/
  receive : Nat → EStateM StreamError σ Bytes

/-- An input asks its own transport. -/
instance : Source Input where
  input s := s
  withBuffer buffer s := { s with buffer }
  receive limit := Input.onTransport (Transport.receive limit)

namespace Input

variable {σ : Type} [Source σ]

/-- Receives once into the buffer; the answer is how many bytes came, none at the end of the
stream. -/
def fill (missing : Nat) : EStateM StreamError σ Nat := fun s =>
  match Source.receive (request missing) s with
  | .ok piece t => .ok piece.length (Source.withBuffer ((Source.input t).buffer ++ piece) t)
  | .error e t => .error e t

/-- Looks and receives in turn, until the look tells something or the stream ends, when `ended` goes
on. Every receive but the last brings one of the `fuel` bytes that wait. -/
def awaitWithin {α : Type} (look : Bytes → Sight α) (ended : Nat → EStateM StreamError σ α) :
    Nat → EStateM StreamError σ α
  | fuel, s =>
    match look (Source.input s).buffer with
    | .found v rest => .ok v (Source.withBuffer rest s)
    | .refused e => .error (.wire e) s
    | .short missing =>
      match fill missing s with
      | .error e s' => .error e s'
      | .ok n s' =>
        match fuel with
        | 0 => ended missing s'
        | fuel + 1 => if n = 0 then ended missing s' else awaitWithin look ended fuel s'

/-- Looks at the buffered bytes, with as many more as it takes. -/
def await {α : Type} (look : Bytes → Sight α) (ended : Nat → EStateM StreamError σ α) :
    EStateM StreamError σ α := fun s =>
  match look (Source.input s).buffer with
  | .found v rest => .ok v (Source.withBuffer rest s)
  | .refused e => .error (.wire e) s
  | .short _ => awaitWithin look ended (Source.input s).transport.outstandingCount s

theorem await_eq {α : Type} (look : Bytes → Sight α) (ended : Nat → EStateM StreamError σ α) (s : σ) :
    await look ended s = awaitWithin look ended (Source.input s).transport.outstandingCount s := by
  unfold await
  split <;> rename_i h
  · rw [awaitWithin.eq_def]; simp [h]
  · rw [awaitWithin.eq_def]; simp [h]
  · rfl

/-- At the end of the stream the missing bytes are an error. -/
def endsEarly {α : Type} (missing : Nat) : EStateM StreamError σ α :=
  throw (.unexpectedEnd missing)

/-- Looks for `n` bytes. -/
def lookExactly (n : Nat) (buffer : Bytes) : Sight Bytes :=
  let front := buffer.take n
  if front.length < n then .short (n - front.length) else .found front (buffer.drop n)

/-- Looks for a varint. -/
def lookVarint (buffer : Bytes) : Sight UInt64 :=
  match Varint.peek buffer with
  | .found v n => .found v (buffer.drop n)
  | .short => .short 1
  | .overflow => .refused .varintOverflow

/-- Looks for what a decoder takes. -/
def lookFrame {α : Type} (decoder : Decoder α) (buffer : Bytes) : Sight α :=
  match decoder buffer with
  | .ok v rest => .found v rest
  | .error (.incomplete needed) _ => .short (max needed 1)
  | .error e _ => .refused e

/-- Looks for any byte, and takes none. -/
def lookAny (buffer : Bytes) : Sight Bool :=
  if buffer.isEmpty then .short 1 else .found false buffer

/-- Takes all of the buffer. -/
def drain : EStateM StreamError σ Bytes := fun s =>
  .ok (Source.input s).buffer (Source.withBuffer [] s)

/-- Reads `n` bytes, or fewer if the stream ends before. -/
def read (n : Nat) : EStateM StreamError σ Bytes :=
  await (lookExactly n) fun _ => drain

/-- Reads exactly `n` bytes. -/
def readExactly (n : Nat) : EStateM StreamError σ Bytes :=
  await (lookExactly n) endsEarly

/-- Whether the stream has ended and nothing is left; waits for a byte if need be. -/
def atEnd : EStateM StreamError σ Bool :=
  await lookAny fun _ => pure true

/-- Reads a varint. -/
def readVarint : EStateM StreamError σ UInt64 :=
  await lookVarint endsEarly

/-- Reads a byte string behind its length. -/
def readBinary : EStateM StreamError σ Bytes := do
  let n ← readVarint
  readExactly n.toNat

/-- Reads a text behind its length. -/
def readText : EStateM StreamError σ String := do
  let raw ← readBinary
  match ofUtf8? raw with
  | some s => pure s
  | none => throw (.wire .invalidUtf8)

/-- Reads a single-precision number. -/
def readBinary32 : EStateM StreamError σ Binary32 := do
  let raw ← readExactly 4
  pure (binary32OfBytes raw)

/-- Reads a double-precision number. -/
def readBinary64 : EStateM StreamError σ Binary64 := do
  let raw ← readExactly 8
  pure (binary64OfBytes raw)

/-- Reads what a decoder takes; nothing is taken before the decoder has all that it needs. -/
def readFrame {α : Type} (decoder : Decoder α) : EStateM StreamError σ α :=
  await (lookFrame decoder) endsEarly

/-- The developers' text. -/
def inspect (s : Input) : String :=
  "InputStream \x7b transport: " ++ s.transport.inspect ++ ", buffered: " ++ toString s.buffered ++
    " \x7d"

end Input

end ColumnWire.Stream
