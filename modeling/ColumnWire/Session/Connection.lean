import ColumnWire.Packet.Client
import ColumnWire.Session.Config
import ColumnWire.Session.Response
import ColumnWire.Stream.Output

/-!
# Connections

A session with a server: greetings, then queries and pings one at a time, then the end. A failure in
the middle of an exchange leaves the position in the stream unknown, so the connection is poisoned
until it is closed; an exception of the server does not.
-/

namespace ColumnWire.Session

open ColumnWire.Wire ColumnWire.Packet ColumnWire.Stream

/-- A session with a server. -/
structure Connection where
  /-- The configuration. -/
  config : Config
  /-- What the server sends. -/
  input : Input
  /-- What goes to the server. -/
  output : Output := {}
  /-- The state. -/
  state : State := .disconnected
  /-- The greeting of the server, while there is a session. -/
  server : Option ServerHello := none
  /-- The types that are known already. -/
  types : TypeCache

/-- An operation on a connection. -/
abbrev Exchange := EStateM ClientError Connection

namespace Connection

/-- A connection over a transport. -/
def ofTransport (config : Config) (transport : Transport) : Connection :=
  { config, input := { transport }, types := TypeCache.new config.typeCacheCapacity }

/-- A connection that is not connected yet. -/
def new (config : Config) : Connection :=
  ofTransport config (Transport.detached config.timeouts)

/-- The transport. -/
def transport (c : Connection) : Transport :=
  c.input.transport

/-- The connection with another transport. -/
def withTransport (c : Connection) (t : Transport) : Connection :=
  { c with input := { c.input with transport := t } }

/-- Passes to a state. -/
def enter (s : State) : Exchange Unit := fun c =>
  .ok () { c with state := s }

/-- Writes bytes and sends all that is pending; nothing is pending afterwards. -/
def transmit (data : Bytes) : Exchange Unit := fun c =>
  match (c.output.write data).flush c.transport with
  | .ok _ t => .ok () { c.withTransport t with output := {} }
  | .error e t => .error (.stream e) { c.withTransport t with output := {} }

/-- Reads from the server. -/
def fromInput {α : Type} (r : Reader α) : Exchange α := fun c =>
  match r c.input with
  | .ok a i => .ok a { c with input := i }
  | .error e i => .error (.stream e) { c with input := i }

/-- Receives from the server. -/
def fromServer {α : Type} (r : Receive α) : Exchange α := fun c =>
  match r ⟨c.input, c.types⟩ with
  | .ok a s => .ok a { c with input := s.input, types := s.types }
  | .error e s => .error e { c with input := s.input, types := s.types }

/-- The error for an operation that needs a session, in a state without one. -/
def notReady (state : State) (operation : Operation) : Option ClientError :=
  match state with
  | .ready => none
  | .disconnected | .closed => some .notConnected
  | _ => some (.invalidState state operation)

/-- The greeting of the client. -/
def greeting (config : Config) : ClientHello :=
  { ClientHello.new config.database config.user config.password with
    clientName := config.clientName }

/-- Exchanges greetings. -/
def handshake : Exchange Unit := do
  enter .handshaking
  let c ← get
  transmit (greeting c.config).encode
  let raw ← fromInput Input.readVarint
  match ServerCode.ofNumber? raw with
  | .ok .hello => do
    let hello ← fromInput (Input.readFrame ServerHello.decoder)
    modify fun c => { c with server := some hello, state := .ready }
  | .ok .exception => do
    let e ← fromInput readException
    throw (.remote e)
  | _ => throw (.unexpectedPacket .handshake raw)

/-- Exchanges greetings; a failure closes the transport and leaves the connection in a state. -/
def handshakeOr (failed : State) : Exchange Unit := fun c =>
  match handshake c with
  | .ok a c' => .ok a c'
  | .error e c' => .error e { c'.withTransport c'.transport.close with state := failed }

/-- Opens a session with a peer. -/
def openWith (config : Config) (peer : Peer) : EStateM.Result ClientError Connection Unit :=
  handshakeOr .closed (ofTransport config (Transport.attached peer config.timeouts))

/-- Connects to the first host and exchanges greetings. `dial` is what the network answers. Possible
only when there is no session; a failure leaves none, so that it can be tried again. -/
def connect (dial : HostAddress → Except StreamError Peer) : Exchange Unit := fun c =>
  match c.state with
  | .disconnected | .closed =>
    match c.config.primaryHost with
    | none => .error (.config .noHost) c
    | some host =>
      let c := { c with state := .connecting, input := c.input.clear, output := c.output.clear }
      match dial host with
      | .ok peer => handshakeOr .disconnected (c.withTransport (c.transport.attach peer))
      | .error e =>
        .error (.stream e) { c.withTransport c.transport.close with state := .disconnected }
  | state => .error (.invalidState state .connect) c

/-- A new connection that is connected. -/
def openTo (config : Config) (dial : HostAddress → Except StreamError Peer) :
    EStateM.Result ClientError Connection Unit :=
  connect dial (new config)

/-- Sends a ping and waits for the answer to it. -/
def exchangePing : Exchange Unit := do
  transmit ClientCode.ping.encode
  let raw ← fromInput Input.readVarint
  if raw ≠ ServerCode.pong.number then throw (.unexpectedPacket .ping raw)

/-- Whether the server answers. Without a session it is not asked; a failure poisons the connection. -/
def ping (c : Connection) : Bool × Connection :=
  match notReady c.state .ping with
  | some _ => (false, c)
  | none =>
    match exchangePing c with
    | .ok _ c' => (true, c')
    | .error _ c' => (false, { c' with state := .poisoned })

/-- The revision that queries carry. -/
def queryRevision (c : Connection) : Revision :=
  match c.server with
  | some hello => Revision.negotiated hello.revision
  | none => Revision.client

/-- The packet for a query with settings of its own. -/
def queryPacket (c : Connection) (text : String) (settings : List (String × String)) : Query :=
  { Query.new text c.config.user c.queryRevision with
    settings := c.config.settings ++ settings
    compression := Compression.ofFlag c.config.compression }

/-- Sends a query with the empty block behind it and receives the answer. -/
def exchangeQuery (text : String) (settings : List (String × String)) : Exchange QueryResult := do
  let c ← get
  transmit ((c.queryPacket text settings).encode ++ encodeEmptyBlock)
  fromServer receiveResult

/-- Runs a query. An exception of the server is an error, after which the connection is ready again;
any other error poisons it. -/
def query (text : String) (settings : List (String × String)) : Exchange QueryResult := fun c =>
  match notReady c.state .query with
  | some e => .error e c
  | none =>
    match exchangeQuery text settings { c with state := .executing } with
    | .error e c' => .error e { c' with state := .poisoned }
    | .ok r c' =>
      match r.toExcept with
      | .ok r => .ok r { c' with state := .ready }
      | .error e => .error e { c' with state := .ready }

/-- Runs a query for its rows. -/
def execute (text : String) (settings : List (String × String)) : Exchange (List Row) := do
  let r ← query text settings
  pure r.rows

/-- Ends the session, in every state. -/
def close (c : Connection) : Connection :=
  { c with
    input := { transport := c.transport.close, buffer := [] }
    output := {}
    server := none
    state := .closed }

/-- The words for a server: its name, version and revision. -/
def describeServer (h : ServerHello) : String :=
  h.name ++ " " ++ toString h.versionMajor ++ "." ++ toString h.versionMinor ++ "." ++
    toString h.versionPatch ++ " (revision " ++ toString h.revision.number ++ ")"

/-- The developers' text of what is known of a server. -/
def inspectServer : Option ServerHello → String
  | none => "None"
  | some h =>
    "Some(ServerInfo \x7b name: " ++ Text.quoted h.name ++
      ", version_major: " ++ toString h.versionMajor ++
      ", version_minor: " ++ toString h.versionMinor ++
      ", version_patch: " ++ toString h.versionPatch ++
      ", revision: Revision(" ++ toString h.revision.number ++ ")" ++
      ", timezone: " ++ Text.quoted h.timezone ++
      ", display_name: " ++ Text.quoted h.displayName ++ " \x7d)"

/-- The developers' text. -/
def inspect (c : Connection) : String :=
  "Connection \x7b config: " ++ c.config.inspect ++ ", state: " ++ c.state.inspect ++
    ", server_info: " ++ inspectServer c.server ++ ", types: " ++ c.types.inspect ++ " \x7d"

end Connection

end ColumnWire.Session
