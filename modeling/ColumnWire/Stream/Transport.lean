import ColumnWire.Stream.Error
import ColumnWire.Stream.Peer

/-!
# Transport

A connection to a peer with a time limit for each activity. A limit of zero means none; waiting
without a limit for a peer that stays silent never ends, and is reported as a limit of zero that was
exceeded. Peers that were parted from are remembered, the latest first.
-/

namespace ColumnWire.Stream

open ColumnWire.Wire ColumnWire.Time

/-- The greatest number of bytes of one receive. -/
def maxReceive : Nat := 65536

/-- The time limits of a transport. -/
structure Timeouts where
  /-- For opening a connection. -/
  connect : Span := Span.ofSeconds 5
  /-- For one send. -/
  send : Span := Span.ofSeconds 5
  /-- For one receive. -/
  receive : Span := Span.ofSeconds 5
  deriving DecidableEq, Repr

/-- A connection to a peer, or none. -/
structure Transport where
  /-- The peer, while connected. -/
  peer : Option Peer
  /-- The time limits. -/
  timeouts : Timeouts
  /-- Former peers, the latest first. -/
  parted : List Peer := []

namespace Transport

/-- A transport without a connection. -/
def detached (timeouts : Timeouts) : Transport :=
  { peer := none, timeouts }

/-- A transport that is connected to a peer. -/
def attached (peer : Peer) (timeouts : Timeouts) : Transport :=
  { peer := some peer, timeouts }

/-- Whether there is a connection. -/
def isConnected (t : Transport) : Bool :=
  t.peer.isSome

/-- The number of bytes that wait to be read. -/
def outstandingCount (t : Transport) : Nat :=
  match t.peer with
  | some p => p.outstandingCount
  | none => 0

/-- The error of an activity that meets trouble. -/
def troubled (t : Transport) (activity : Activity) : Trouble → StreamError
  | .failure reason => .io reason
  | .silence =>
    .timeout activity <|
      match activity with
      | .connect => t.timeouts.connect
      | .send => t.timeouts.send
      | .receive => t.timeouts.receive

/-- Sends bytes. What the peer took before an error stays sent. -/
def send (data : Bytes) : EStateM StreamError Transport Unit := fun t =>
  match t.peer with
  | none => .error .notConnected t
  | some p =>
    match p.accept data with
    | (true, p') => .ok () { t with peer := some p' }
    | (false, p') => .error (t.troubled .send p.refusal) { t with peer := some p' }

/-- Receives bytes once: at most `limit` and at most `maxReceive`. No bytes at the end of the stream,
and none are waited for if the limit is zero. -/
def receive (limit : Nat) : EStateM StreamError Transport Bytes := fun t =>
  match t.peer with
  | none => .error .notConnected t
  | some p =>
    let (piece, p') := p.deliver (min limit maxReceive)
    let t' := { t with peer := some p' }
    if piece.isEmpty && limit != 0 then
      match p.ending with
      | .closed => .ok [] t'
      | .trouble trouble => .error (t.troubled .receive trouble) t'
    else .ok piece t'

/-- Receives until `missing` more bytes are there; each receive but the last brings one or more. -/
def receiveMore : (fuel missing : Nat) → Bytes → EStateM StreamError Transport Bytes
  | 0, _, got => pure got
  | fuel + 1, missing, got =>
    if missing = 0 then pure got
    else do
      let piece ← receive missing
      if piece.isEmpty then throw (.unexpectedEnd missing)
      receiveMore fuel (missing - piece.length) (got ++ piece)

/-- Receives exactly `n` bytes. -/
def receiveExactly (n : Nat) : EStateM StreamError Transport Bytes :=
  receiveMore n n []

/-- Connects to a peer. -/
def attach (t : Transport) (peer : Peer) : Transport :=
  { t with peer := some peer }

/-- Shuts the stream down and parts from the peer; nothing to do without one. -/
def close (t : Transport) : Transport :=
  match t.peer with
  | none => t
  | some p => { t with peer := none, parted := p.shutdown :: t.parted }

/-- Every peer of the transport, the latest first. -/
def peers (t : Transport) : List Peer :=
  match t.peer with
  | none => t.parted
  | some p => p :: t.parted

/-- The developers' text. -/
def inspect (t : Transport) : String :=
  "Transport \x7b connected: " ++ toString t.isConnected ++
    ", timeouts: TransportTimeouts \x7b connect: " ++ t.timeouts.connect.text ++
    ", send: " ++ t.timeouts.send.text ++
    ", receive: " ++ t.timeouts.receive.text ++ " \x7d \x7d"

end Transport

end ColumnWire.Stream
