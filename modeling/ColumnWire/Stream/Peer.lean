import ColumnWire.Wire.Decoder

/-!
# Peers

The other end of a connection, as far as a client can observe it: the pieces of bytes that wait to be
read, what a reader finds behind the last of them, how many bytes it takes and what becomes of a
sender who offers more, and what it answers. `Peer.deliver` hands out at most one piece at a time and
never an empty one.
-/

namespace ColumnWire.Stream

open ColumnWire.Wire

/-- Why a peer neither takes nor gives bytes. -/
inductive Trouble where
  /-- The system reports a failure. -/
  | failure (reason : String)
  /-- Nothing ever happens. -/
  | silence
  deriving DecidableEq, Repr

/-- What a reader finds behind the last piece. -/
inductive Ending where
  /-- The end of the stream. -/
  | closed
  /-- Trouble. -/
  | trouble (t : Trouble)
  deriving DecidableEq, Repr

/-- Cuts bytes into pieces of a size, of which the last may be smaller. The size is at least one. -/
def cutInto (size : Nat) (data : Bytes) : List Bytes :=
  go data.length data
where
  /-- The pieces of the bytes that are left; each piece has one or more of the `fuel` bytes. -/
  go : (fuel : Nat) → Bytes → List Bytes
    | _, [] => []
    | 0, rest => [rest]
    | fuel + 1, rest => rest.take (max size 1) :: go fuel (rest.drop (max size 1))

/-- What a peer does when it takes bytes. -/
structure Answer where
  /-- The pieces that it sends. -/
  pieces : List Bytes := []
  /-- What a reader finds behind them from now on; as before, if nothing is said. -/
  ending : Option Ending := none

/-- The other end of a connection. -/
structure Peer where
  /-- The pieces that wait to be read. -/
  incoming : List Bytes := []
  /-- What a reader finds behind them. -/
  ending : Ending := .closed
  /-- How many bytes the peer takes in all; without a number it takes any. -/
  capacity : Option Nat := none
  /-- What a sender meets who offers more. -/
  refusal : Trouble := .silence
  /-- What the peer does when, after the first bytes, it takes the second. -/
  answer : Bytes → Bytes → Answer := fun _ _ => {}
  /-- Everything that the peer has taken. -/
  received : Bytes := []
  /-- How often the client has shut the stream down. -/
  shutdowns : Nat := 0

namespace Peer

/-- The bytes that wait to be read. -/
def outstanding (p : Peer) : Bytes :=
  p.incoming.flatten

/-- The number of bytes that wait to be read. -/
def outstandingCount (p : Peer) : Nat :=
  p.incoming.foldl (fun n piece => n + piece.length) 0

/-- How many more bytes the peer takes, of an offer of `n`. -/
def room (p : Peer) (n : Nat) : Nat :=
  match p.capacity with
  | none => n
  | some c => min n (c - p.received.length)

/-- Offers bytes to the peer; the answer says whether it took all of them. -/
def accept (p : Peer) (data : Bytes) : Bool × Peer :=
  let n := p.room data.length
  let taken := data.take n
  let answer := p.answer p.received taken
  let p' := { p with
    received := p.received ++ taken
    incoming := p.incoming ++ answer.pieces
    ending := answer.ending.getD p.ending }
  (n == data.length, p')

/-- Hands out at most `limit` bytes of the first piece that is not empty; the rest of the piece goes
on waiting. Nothing is handed out once no piece waits. -/
def deliver (limit : Nat) (p : Peer) : Bytes × Peer :=
  if limit = 0 then ([], p)
  else
    match p.incoming.dropWhile (·.isEmpty) with
    | [] => ([], { p with incoming := [] })
    | piece :: rest =>
      let left := piece.drop limit
      (piece.take limit, { p with incoming := if left.isEmpty then rest else left :: rest })

/-- Notes that the client has shut the stream down. -/
def shutdown (p : Peer) : Peer :=
  { p with shutdowns := p.shutdowns + 1 }

end Peer

end ColumnWire.Stream
