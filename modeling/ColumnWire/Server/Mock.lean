import ColumnWire.Packet.Client
import ColumnWire.Server.Response
import ColumnWire.Stream.Peer
import ColumnWire.Text.Blank
import ColumnWire.Text.Upper

/-!
# Servers with prepared responses

A server for tests that greets every client, or refuses it, and answers queries by their text. A
`Conversation` is its side of one connection: it takes bytes as they come, cut anyhow, and answers each
packet once it is complete. Queries are recorded when their response could be written.
-/

namespace ColumnWire.Server

open ColumnWire.Wire ColumnWire.Packet ColumnWire.Stream ColumnWire.Text

/-- A server with prepared responses. -/
structure Mock where
  /-- Responses by the text of the query, in the order in which they were given. -/
  responses : List (String × Response) := []
  /-- The response to every other query. -/
  fallback : Response := .empty
  /-- The greeting. -/
  hello : ServerHello := ⟨"ClickHouse", 23, 8, Revision.client, "UTC", "mock", 1⟩
  /-- The exception that is sent instead of the greeting. -/
  refusal : Option ServerException := none

namespace Mock

/-- The server with a response to a query, instead of an earlier one to the same text. -/
def withResponse (m : Mock) (query : String) (response : Response) : Mock :=
  { m with responses := m.responses.filter (·.1 != query) ++ [(query, response)] }

/-- The form of a query's text in which blanks around it and case do not count. -/
def normalize (query : String) : List Char :=
  toUpperCase (trim query.toList)

/-- The response to a query: that of its own text, else the first of a text of the same form, else
the fallback. -/
def responseTo (m : Mock) (query : String) : Response :=
  match m.responses.find? (·.1 == query) with
  | some r => r.2
  | none =>
    match m.responses.find? fun r => normalize r.1 == normalize query with
    | some r => r.2
    | none => m.fallback

end Mock

/-- Where a conversation stands. -/
inductive Phase where
  /-- The greeting of the client is awaited. -/
  | greeting
  /-- Queries and pings are answered. -/
  | serving
  /-- Nothing is answered any more. -/
  | finished
  deriving DecidableEq, Repr

/-- A server's side of one connection. -/
structure Conversation where
  /-- Where it stands. -/
  phase : Phase := .greeting
  /-- The bytes of a packet that is not complete. -/
  buffer : Bytes := []
  /-- The queries so far. -/
  queries : List Query := []

namespace Conversation

/-- Takes a packet: the conversation after it and the answer. -/
def take (m : Mock) (c : Conversation) (packet : ClientPacket) : Conversation × Bytes :=
  match c.phase, packet with
  | .greeting, .hello _ =>
    match m.refusal with
    | some e => ({ c with phase := .finished }, e.encode)
    | none => ({ c with phase := .serving }, m.hello.encode)
  | .greeting, _ => ({ c with phase := .finished }, [])
  | .serving, .query q =>
    match (m.responseTo q.text).encode q.text with
    | .ok bytes => ({ c with queries := c.queries ++ [q] }, bytes)
    | .error _ => ({ c with phase := .finished }, [])
  | .serving, .ping => (c, ServerCode.pong.encode)
  | .serving, _ => (c, [])
  | .finished, _ => (c, [])

/-- Takes the complete packets of the buffer, each of which has a byte or more, and collects the
answers. -/
def takeAll (m : Mock) : (fuel : Nat) → Conversation → Conversation × List Bytes
  | 0, c => (c, [])
  | fuel + 1, c =>
    if c.phase = .finished ∨ c.buffer = [] then (c, [])
    else
      match ClientPacket.decoder c.buffer with
      | .ok packet rest =>
        let (c', answer) := take m { c with buffer := rest } packet
        let (c'', answers) := takeAll m fuel c'
        (c'', answer :: answers)
      | .error (.incomplete _) _ => (c, [])
      | .error _ _ => ({ c with phase := .finished }, [])

/-- Takes bytes: the conversation after them and the answers. -/
def receive (m : Mock) (c : Conversation) (data : Bytes) : Conversation × List Bytes :=
  let c' := { c with buffer := c.buffer ++ data }
  takeAll m c'.buffer.length c'

end Conversation

namespace Mock

/-- What the server does when, after the first bytes, it takes the second. -/
def answer (m : Mock) (past new : Bytes) : Answer :=
  let (c, _) := Conversation.receive m {} past
  let (c', answers) := c.receive m new
  { pieces := answers, ending := if c'.phase = .finished then some .closed else none }

/-- The server as the peer of one client. It waits for the client without a limit. -/
def peer (m : Mock) : Peer :=
  { ending := .trouble .silence, answer := m.answer }

/-- The conversation with a client that sent some bytes. -/
def conversation (m : Mock) (received : Bytes) : Conversation × List Bytes :=
  Conversation.receive m {} received

end Mock

end ColumnWire.Server
