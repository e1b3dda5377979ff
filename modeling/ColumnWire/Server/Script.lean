import ColumnWire.Packet.Client
import ColumnWire.Server.Error
import ColumnWire.Stream.Input

/-!
# Scripts

A server for tests that plays fixed steps to one client: waiting for a packet, sending bytes, pausing
and closing. After the last step it takes the packets that still come.
-/

namespace ColumnWire.Server

open ColumnWire.Wire ColumnWire.Packet ColumnWire.Stream ColumnWire.Time

/-- A step of a script. -/
inductive Step where
  /-- Wait for a packet of this kind. -/
  | expect (code : ClientCode)
  /-- Send bytes at once. -/
  | send (data : Bytes)
  /-- Send bytes in pieces of at most so many. -/
  | sendFragmented (data : Bytes) (size : Nat)
  /-- Pause. -/
  | delay (pause : Span)
  /-- End the connection and the script. -/
  | close
  deriving DecidableEq, Repr

/-- An action of a server on its connection. -/
abbrev Play := EStateM ServerError Input

namespace Step

/-- Runs a read of the server. -/
def reading {α : Type} (r : Reader α) : Play α := fun s =>
  match r s with
  | .ok a s' => .ok a s'
  | .error e s' => .error (.stream e) s'

/-- Reads the next packet of the client; none once the client has ended the stream. -/
def nextPacket : Reader (Option ClientPacket) := do
  let ended ← Input.atEnd
  if ended then pure none
  else
    let packet ← Input.readFrame ClientPacket.decoder
    pure (some packet)

/-- Takes the packets that still come, up to the end of the stream or an error. Each has a byte or
more. -/
def drain : (fuel : Nat) → Input → List ClientPacket × Input
  | 0, s => ([], s)
  | fuel + 1, s =>
    match nextPacket s with
    | .ok (some packet) s' =>
      let (packets, s'') := drain fuel s'
      (packet :: packets, s'')
    | .ok none s' => ([], s')
    | .error _ s' => ([], s')

/-- Plays steps; the answer lists the packets of the client. -/
def play : List Step → Play (List ClientPacket)
  | [] => fun s =>
    let (packets, s') := drain s.unreadCount s
    .ok packets s'
  | .expect code :: rest => do
    match ← reading nextPacket with
    | none => throw (.breach (.closed code))
    | some packet =>
      if packet.code ≠ code then throw (.breach (.other code packet.code))
      let packets ← play rest
      pure (packet :: packets)
  | .send data :: rest => do
    reading (Input.onTransport (Transport.send data))
    play rest
  | .sendFragmented data _ :: rest => do
    reading (Input.onTransport (Transport.send data))
    play rest
  | .delay _ :: rest => play rest
  | .close :: _ => do
    modify fun s => { s with transport := s.transport.close }
    pure []

end Step

/-- What a script made of a client. -/
structure Played where
  /-- The packets of the client, or why the script failed. -/
  outcome : Except ServerError (List ClientPacket)
  /-- The bytes that the client received. -/
  reply : Bytes

/-- Plays a script to a client that sends some bytes and then waits for the end. -/
def playScript (steps : List Step) (client : Bytes) : Played :=
  let transport := Transport.attached { incoming := [client] }
    { ({} : Timeouts) with receive := Span.zero }
  let reply := fun s : Input => (s.transport.peers.head?.map (·.received)).getD []
  match Step.play steps { transport } with
  | .ok packets s => ⟨.ok packets, reply s⟩
  | .error e s => ⟨.error e, reply s⟩

end ColumnWire.Server
