import Mathlib.Tactic.Common
import ColumnWire.Proofs.Packet.ClientStream
import ColumnWire.Proofs.Packet.ServerRoundTrip
import ColumnWire.Proofs.Server.Prepared
import ColumnWire.Proofs.Session.Boundary
import ColumnWire.Proofs.Session.Isolation
import ColumnWire.Proofs.Session.Reachable
import ColumnWire.Proofs.Session.Transcript

/-!
# Tasks of clients and their answers

What a client does over a stream (`Task`): connecting, then queries and pings. A task is given what has
arrived on the stream, in pieces, and what comes behind (`Task.run`). It sends before it reads, so it sends
the same whatever that is (`Task.sentIn_connect` and `Task.sentIn_ask`), also when nothing has arrived
(`Task.sends`).

Between two tasks the session is ready with nothing unread (`Connection.InSession`). From there a task
whose answer has arrived has the reply that the server grants (`Mock.Grants`), whatever has arrived
behind the answer, which is left: `Task.gets_connect` and `Task.gets_ask`.
-/

namespace ColumnWire.Stream

open ColumnWire.Wire

/-! ## Streams -/

/-- The other end of a stream. It takes all bytes, and does not answer by itself. -/
def Peer.stream (pieces : List Bytes) (ending : Ending) : Peer :=
  { incoming := pieces, ending }

/-- The transport is attached to the other end of a stream. -/
def Transport.OnStream (t : Transport) : Prop :=
  ∃ p, t.peer = some p ∧ p.capacity = none ∧ p.answer = fun _ _ => {}

namespace Transport

variable {t t' : Transport}

/-- Reading stays on the stream. -/
lemma OnStream.of_drained (h : t.OnStream) (hdrained : t'.drained = t.drained) : t'.OnStream := by
  obtain ⟨p, hpeer, hcapacity, hanswer⟩ := h
  have hsame := congrArg Transport.peer hdrained
  simp only [drained, hpeer, Option.map_some, Option.map_eq_some_iff, Peer.mk.injEq] at hsame
  obtain ⟨p', hpeer', -, -, hcapacity', -, hanswer', -⟩ := hsame
  exact ⟨p', hpeer', hcapacity'.trans hcapacity, hanswer'.trans hanswer⟩

/-- A stream takes all bytes, and nothing else changes. -/
lemma OnStream.send (h : t.OnStream) (data : Bytes) :
    ∃ t', Transport.send data t = .ok () t' ∧ t'.OnStream ∧ t'.outstanding = t.outstanding := by
  obtain ⟨p, hpeer, hcapacity, hanswer⟩ := h
  have haccept : p.accept data = (true, { p with received := p.received ++ data }) := by
    simp [Peer.accept, Peer.room, hcapacity, hanswer]
  refine ⟨{ t with peer := some { p with received := p.received ++ data } }, ?_,
    ⟨_, rfl, hcapacity, hanswer⟩, ?_⟩
  · unfold Transport.send
    rw [hpeer]
    dsimp only
    rw [haccept]
  · simp [outstanding, hpeer, Peer.outstanding]

end Transport

end ColumnWire.Stream

namespace ColumnWire.Session

open ColumnWire.Wire ColumnWire.Packet ColumnWire.Stream ColumnWire.Server

/-! ## Tasks -/

namespace Connection

/-- The connection when bytes have arrived behind those that wait, in pieces, and something comes behind
them. -/
def hear (pieces : List Bytes) (ending : Ending) (c : Connection) : Connection :=
  c.withTransport { c.transport with
    peer := c.transport.peer.map fun p => { p with incoming := p.incoming ++ pieces, ending } }

/-- The bytes that the latest peer has taken. -/
def taken (c : Connection) : Bytes :=
  (c.transport.peers.head?.map Peer.received).getD []

end Connection

/-- What a client does next. -/
inductive Task where
  /-- It connects. -/
  | connect
  /-- It asks the server. -/
  | ask (r : Request)

namespace Task

/-- Does a task: with the pieces that have arrived for it and what comes behind them. -/
def run (pieces : List Bytes) (ending : Ending) : Task → Connection → Reply × Connection
  | .connect, c => (Call.connect fun _ => .ok (.stream pieces ending)).run c
  | .ask r, c => (Call.request r).run (c.hear pieces ending)

/-- The bytes that a task sends when it is done so. -/
def sentIn (pieces : List Bytes) (ending : Ending) (c : Connection) : Task → Bytes
  | .connect => (run pieces ending .connect c).2.taken
  | .ask r => (run pieces ending (.ask r) c).2.taken.drop c.taken.length

/-- The bytes that a task sends. It sends them before it reads, so that nothing needs to arrive. -/
def sends (c : Connection) (t : Task) : Bytes :=
  t.sentIn [] (.trouble .silence) c

/-- The packet of a task, as configured, for a server. -/
def packet (m : Mock) (config : Config) : Task → ClientPacket
  | .connect => .hello (Connection.greeting config)
  | .ask r => r.packet { Connection.new config with server := some m.hello.visible }

/-- The bytes with which a server answers a task. -/
def answer (m : Mock) : Task → Bytes
  | .connect => m.hello.encode
  | .ask .ping => ServerCode.pong.encode
  | .ask (.query text _) => ((m.responseTo text).encode text).toOption.getD []

end Task

end ColumnWire.Session

namespace ColumnWire.Server

open ColumnWire.Session

/-- The reply that a server with prepared responses grants. -/
inductive Mock.Grants (m : Mock) : Task → Reply → Prop where
  /-- A session. -/
  | session : Grants m .connect (.connected (.ok ()))
  /-- A sign of life. -/
  | sign : Grants m (.ask .ping) (.alive true)
  /-- The outcome of the one response that is prepared for the text. -/
  | result {text : String} {settings : List (String × String)} {response : Response}
      {outcome : Except ClientError QueryResult}
      (hresponse : ∀ r, m.Prepares text r ↔ r = response) (houtcome : response.ReadAs outcome) :
      Grants m (.ask (.query text settings)) (.result outcome)

end ColumnWire.Server

namespace ColumnWire.Session

open ColumnWire.Wire ColumnWire.Packet ColumnWire.Stream ColumnWire.Server

/-! ## Exchanges over a stream -/

namespace Connection

variable {c d : Connection} {w rest : Bytes}

/-- A connection over a stream, between exchanges or within one. -/
structure Listening (c : Connection) : Prop where
  /-- Nothing is pending. -/
  pending : c.output = {}
  /-- The types are sound. -/
  types : c.types.Sound
  /-- There is a stream. -/
  stream : c.transport.OnStream

/-- The second connection is the first one after some steps of an exchange. -/
structure Proceeds (c d : Connection) : Prop extends Listening d where
  /-- The configuration stays. -/
  config : d.config = c.config
  /-- The greeting of the server stays. -/
  server : d.server = c.server
  /-- The state stays. -/
  state : d.state = c.state

/-- The bytes that arrive over a stream lie ahead. -/
instance : Tape Connection where
  ahead c := c.input.unread
  Valid := Listening
  Moves := Proceeds
  refl h := ⟨h, rfl, rfl, rfl⟩
  trans h h' := ⟨h'.toListening, h'.config.trans h.config, h'.server.trans h.server,
    h'.state.trans h.state⟩
  valid h := h.toListening

/-- Sending takes nothing of what lies ahead. -/
lemma transmit_reads {data : Bytes} (hne : data ≠ []) : Tape.Reads (transmit data) [] () := by
  intro c rest hc hahead
  obtain ⟨t, hsend, hstream, houtstanding⟩ := hc.stream.send data
  refine ⟨{ c.withTransport t with output := {} }, ?_, ?_, ⟨rfl, hc.types, hstream⟩, rfl, rfl, rfl⟩
  · have hwrite : c.output.write data = { pending := data } := by
      rw [hc.pending]
      rfl
    unfold transmit Output.flush
    rw [hwrite, if_neg (by simpa [Output.isEmpty] using hne), hsend]
  · exact (congrArg (c.input.buffer ++ ·) houtstanding).trans hahead

/-- Reading takes what the read takes. -/
lemma fromInput_reads {α : Type} {r : Reader α} {v : α} (h : Tape.Reads r w v) :
    Tape.Reads (fromInput r) w v := by
  intro c rest hc hahead
  obtain ⟨i, hi, hrest, hdrained⟩ := h c.input rest trivial hahead
  exact ⟨{ c with input := i }, by rw [fromInput, hi], hrest,
    ⟨hc.pending, hc.types, hc.stream.of_drained hdrained⟩, rfl, rfl, rfl⟩

/-- So does receiving. -/
lemma fromServer_reads {α : Type} {m : Receive α} {v : α} (h : Tape.Reads m w v) :
    Tape.Reads (fromServer m) w v := by
  intro c rest hc hahead
  obtain ⟨t, ht, hrest, hdrained, htypes⟩ := h ⟨c.input, c.types⟩ rest hc.types hahead
  exact ⟨{ c with input := t.input, types := t.types }, by rw [fromServer, ht], hrest,
    ⟨hc.pending, htypes, hc.stream.of_drained hdrained⟩, rfl, rfl, rfl⟩

/-- The greeting of a server is read without what its revision does not have. -/
lemma readGreeting_reads {hello : ServerHello} (hfit : hello.encode.length < UInt64.size) :
    Tape.Reads readGreeting hello.encode hello.visible := by
  rw [ServerHello.encode, List.length_append] at hfit
  have hcode := Input.readVarint_refines.reads (Varint.encode_spells ServerCode.hello.number)
  have hbody := (ReadOp.frame .serverHello).refines.reads
    (ServerHello.encodeBody_spells (h := hello) (by omega))
  exact (fromInput_reads hcode).bind (fromInput_reads hbody)

/-- The exchange for a ping takes the answer to it. -/
lemma exchangePing_reads : Tape.Reads exchangePing ServerCode.pong.encode () := by
  have hcode := Input.readVarint_refines.reads (Varint.encode_spells ServerCode.pong.number)
  have hne : ClientCode.ping.encode ≠ [] := ClientPacket.ping.encode_ne_nil
  exact (transmit_reads hne).bind ((fromInput_reads hcode).bind_nil (Tape.Reads.pure ()))

/-- The exchange for a query takes a response. -/
lemma exchangeQuery_reads {q : QueryResult} (h : Tape.Reads receiveResult w q) (text : String)
    (settings : List (String × String)) : Tape.Reads (exchangeQuery text settings) w q := by
  intro c rest hc hahead
  have hne : (c.queryPacket text settings).encode ++ encodeEmptyBlock ≠ [] :=
    (ClientPacket.query (c.queryPacket text settings)).encode_ne_nil
  exact ((transmit_reads hne).bind (fromServer_reads h)) c rest hc hahead

/-! ## Sessions -/

/-- A session with a server is ready, under a configuration, with some bytes unread. -/
structure InSession (m : Mock) (config : Config) (left : Bytes) (c : Connection) : Prop
    extends Listening c where
  /-- It is configured so. -/
  config : c.config = config
  /-- It is ready. -/
  state : c.state = .ready
  /-- The server has introduced itself. -/
  server : c.server = some m.hello.visible
  /-- The bytes are unread. -/
  unread : c.input.unread = left

variable {m : Mock} {config : Config}

/-- What arrives lies behind what is unread. -/
lemma InSession.hear (h : c.InSession m config w) (pieces : List Bytes) (ending : Ending) :
    (c.hear pieces ending).InSession m config (w ++ pieces.flatten) := by
  obtain ⟨⟨hpending, htypes, p, hpeer, hcapacity, hanswer⟩, hconfig, hstate, hserver, hunread⟩ := h
  have hpeer' : (c.hear pieces ending).transport.peer =
      some { p with incoming := p.incoming ++ pieces, ending } :=
    congrArg (Option.map _) hpeer
  refine ⟨⟨hpending, htypes, _, hpeer', hcapacity, hanswer⟩, hconfig, hstate, hserver, ?_⟩
  have hwaiting : c.input.transport.outstanding = p.incoming.flatten := by
    rw [Transport.outstanding, show c.input.transport.peer = some p from hpeer]
    rfl
  rw [Input.unread_eq, Transport.outstanding,
    show (c.hear pieces ending).input.transport.peer = _ from hpeer', ← hunread, Input.unread_eq,
    hwaiting]
  simp [Peer.outstanding, Connection.hear, withTransport]

/-- A ping whose answer has arrived is answered, and the session goes on. -/
lemma InSession.ping (h : c.InSession m config (ServerCode.pong.encode ++ rest)) :
    ∃ d, ping c = (true, d) ∧ d.InSession m config rest := by
  obtain ⟨d, hd, hrest, hproceeds⟩ := exchangePing_reads c rest h.toListening h.unread
  refine ⟨d, ?_, hproceeds.toListening, hproceeds.config.trans h.config,
    hproceeds.state.trans h.state, hproceeds.server.trans h.server, hrest⟩
  rw [ping_of_ready h.state, hd]

/-- A query whose response has arrived has its outcome, and the session goes on. -/
lemma InSession.query {q : QueryResult} (hq : Tape.Reads receiveResult w q)
    (h : c.InSession m config (w ++ rest)) (text : String) (settings : List (String × String)) :
    ∃ d, outcome (query text settings c) = q.toExcept ∧ finalState (query text settings c) = d ∧
      d.InSession m config rest := by
  have hlistening : Listening { c with state := .executing } := ⟨h.pending, h.types, h.stream⟩
  obtain ⟨d, hd, hrest, hproceeds⟩ := exchangeQuery_reads hq text settings _ rest hlistening h.unread
  refine ⟨{ d with state := .ready }, ?_, ?_,
    ⟨hproceeds.pending, hproceeds.types, hproceeds.stream⟩, hproceeds.config.trans h.config, rfl,
    hproceeds.server.trans h.server, hrest⟩
  all_goals
    rw [query_of_ready text settings h.state, hd]
    cases hresult : q.toExcept <;> simp [hresult, outcome, finalState]

/-- A new connection that has reached a stream listens to it. -/
lemma listening_reaching (config : Config) (pieces : List Bytes) (ending : Ending) :
    ((new config).reaching (.stream pieces ending)).Listening :=
  ⟨rfl, TypeCache.new_sound _, _, rfl, rfl, rfl⟩

/-- Connecting to a stream on which the greeting of the server has arrived opens a session. -/
lemma connect_inSession {host : HostAddress} (hm : m.Usable) (hhost : config.primaryHost = some host)
    {pieces : List Bytes} (ending : Ending) (hpieces : pieces.flatten = m.hello.encode ++ rest) :
    ∃ d, connect (fun _ => .ok (.stream pieces ending)) (new config) = .ok () d ∧
      d.InSession m config rest := by
  let b := (new config).reaching (.stream pieces ending)
  have hb := listening_reaching config pieces ending
  have hlistening : Listening { b with state := .handshaking } := ⟨hb.pending, hb.types, hb.stream⟩
  have hne : (greeting b.config).encode ≠ [] :=
    (ClientPacket.hello (greeting b.config)).encode_ne_nil
  have hreads := (transmit_reads hne).bind (f := fun _ => readGreeting)
    (readGreeting_reads hm.hello)
  rw [List.nil_append] at hreads
  obtain ⟨d, hd, hrest, hproceeds⟩ :=
    hreads { b with state := .handshaking } rest hlistening hpieces
  refine ⟨{ d with server := some m.hello.visible, state := .ready }, ?_,
    ⟨hproceeds.pending, hproceeds.types, hproceeds.stream⟩, hproceeds.config, rfl, rfl, hrest⟩
  have hopens : handshakeOr .disconnected b =
      .ok () { d with server := some m.hello.visible, state := .ready } := by
    rw [handshakeOr, handshake_eq, ← bind_assoc, bind_ok hd]
    rfl
  rw [connect_of_permitted _ (.inl rfl), show (new config).config.primaryHost = _ from hhost]
  exact hopens

end Connection

namespace Task

variable {m : Mock} {config : Config}

/-- Whatever has arrived behind the answer to a task, the task has the reply, and the session goes on
with that unread. -/
def Gets (m : Mock) (config : Config) (c : Connection) (t : Task) (reply : Reply) : Prop :=
  ∀ pieces ending rest, pieces.flatten = t.answer m ++ rest →
    ∃ d, t.run pieces ending c = (reply, d) ∧ d.InSession m config rest

/-- Connecting is granted. -/
theorem gets_connect {host : HostAddress} (hm : m.Usable) (hhost : config.primaryHost = some host) :
    ∃ reply, m.Grants .connect reply ∧ Gets m config (.new config) .connect reply := by
  refine ⟨_, .session, fun pieces ending rest hpieces => ?_⟩
  obtain ⟨d, hd, hsession⟩ := Connection.connect_inSession hm hhost ending hpieces
  exact ⟨d, by rw [run, Call.run, hd]; rfl, hsession⟩

/-- In a session a query or a ping is granted. -/
theorem gets_ask {c : Connection} (hm : m.Usable) (hc : c.InSession m config []) (r : Request) :
    ∃ reply, m.Grants (.ask r) reply ∧ Gets m config c (.ask r) reply := by
  cases r with
  | ping =>
      refine ⟨_, .sign, fun pieces ending rest hpieces => ?_⟩
      have hheard := hc.hear pieces ending
      rw [List.nil_append, hpieces] at hheard
      obtain ⟨d, hd, hsession⟩ := hheard.ping
      exact ⟨d, by rw [run, Call.run, Request.run, hd], hsession⟩
  | query text settings =>
      have hresponse : ∀ r, m.Prepares text r ↔ r = m.responseTo text :=
        fun _ => hm.distinct.prepares_iff
      obtain ⟨bytes, q, hbytes, -, hread, hreads⟩ :=
        (hm.of_prepares (m.prepares_responseTo text)).reads text
      refine ⟨_, .result hresponse hread, fun pieces ending rest hpieces => ?_⟩
      have hheard := hc.hear pieces ending
      rw [List.nil_append, hpieces, answer, hbytes] at hheard
      obtain ⟨d, houtcome, hfinal, hsession⟩ := hheard.query hreads text settings
      exact ⟨d, by rw [run, Call.run, Request.run, houtcome, hfinal], hsession⟩

end Task

/-! ## What tasks send -/

namespace Connection

variable {c : Connection} {w : Bytes} {m : Mock} {config : Config}

/-- While a peer is attached it is the latest one. -/
lemma taken_of_sent (h : c.sent = some w) : c.taken = w := by
  obtain ⟨p, hpeer, rfl⟩ := Option.map_eq_some_iff.1 h
  rw [taken, Transport.peers, hpeer]
  rfl

/-- Closing the transport leaves what the latest peer has taken. -/
lemma taken_close (c : Connection) (s : State) :
    ({ c.withTransport c.transport.close with state := s } : Connection).taken = c.taken := by
  change (c.transport.close.peers.head?.map Peer.received).getD [] = c.taken
  unfold taken Transport.close Transport.peers
  cases hpeer : c.transport.peer with
  | none => simp [hpeer]
  | some p => simp [Peer.shutdown]

/-- Over a stream, greetings send the greeting of the client, whether they succeed or not. -/
lemma taken_handshakeOr (h : c.Listening) (hsent : c.sent = some w) (failed : State) :
    (finalState (handshakeOr failed c)).taken = w ++ (greeting c.config).encode := by
  have hne : (greeting c.config).encode ≠ [] := (ClientPacket.hello (greeting c.config)).encode_ne_nil
  obtain ⟨_, htransmit, -⟩ := transmit_reads hne { c with state := .handshaking } _
    ⟨h.pending, h.types, h.stream⟩ rfl
  have hwrote := wrote_transmit (c := { c with state := .handshaking }) h.pending
    (by rw [htransmit]; rfl) .handshaking
  cases hshake : handshake c with
  | ok a d =>
      have hok : handshakeOr failed c = .ok () d := by rw [handshakeOr, hshake]
      obtain ⟨-, -, -, hd⟩ := handshakeOr_wrote h.pending hok
      rw [hsent] at hd
      rw [hok]
      exact taken_of_sent hd
  | error e d =>
      have hd := (hwrote.of_frame (handshake_eq_error hshake)).sent
      rw [show Connection.sent { c with state := .handshaking } = some w from hsent] at hd
      rw [handshakeOr, hshake]
      exact (taken_close d failed).trans (taken_of_sent hd)

/-- In a session a request sends its packet. -/
lemma InSession.taken_run {left : Bytes} (h : c.InSession m config left) (hsent : c.sent = some w)
    (r : Request) : (r.run c).2.taken = w ++ (r.packet c).encode := by
  obtain ⟨_, htransmit, -⟩ := transmit_reads (r.packet c).encode_ne_nil c _ h.toListening rfl
  have hwrote := run_wrote r h.state h.pending (by rw [htransmit]; rfl)
  have hd := hwrote.sent
  rw [hsent] at hd
  exact taken_of_sent hd

end Connection

namespace Task

variable {m : Mock} {config : Config} {c : Connection}

/-- Connecting sends its packet, whatever has arrived. -/
lemma sentIn_connect {host : HostAddress} (m : Mock) (hhost : config.primaryHost = some host)
    (pieces : List Bytes) (ending : Ending) :
    sentIn pieces ending (.new config) .connect = (packet m config .connect).encode := by
  rw [sentIn, run, Call.run, Connection.connect_of_permitted _ (.inl rfl),
    show (Connection.new config).config.primaryHost = _ from hhost]
  exact Connection.taken_handshakeOr (Connection.listening_reaching config _ _)
    (w := []) rfl .disconnected

/-- In a session a query or a ping sends its packet, whatever has arrived. -/
lemma sentIn_ask (hc : c.InSession m config []) (r : Request) (pieces : List Bytes) (ending : Ending) :
    sentIn pieces ending c (.ask r) = (packet m config (.ask r)).encode := by
  have hheard := hc.hear pieces ending
  obtain ⟨p, hpeer, -⟩ := hc.stream
  have hsent : c.sent = some p.received := by rw [Connection.sent, hpeer]; rfl
  have hsent' : (c.hear pieces ending).sent = some p.received := by
    rw [← hsent]
    simp [Connection.sent, Connection.hear, Connection.withTransport, Connection.transport,
      Function.comp_def]
  have hpacket := Connection.packet_congr
    (c := { Connection.new config with server := some m.hello.visible }) hheard.config hheard.server
  rw [sentIn, run, Call.run, hheard.taken_run hsent' r, Connection.taken_of_sent hsent,
    List.drop_left, packet, hpacket]

/-- The other end sees all of the packet of a task. -/
lemma packet_visible (m : Mock) (config : Config) (t : Task) :
    (packet m config t).visible = packet m config t := by
  cases t with
  | connect => rfl
  | ask r =>
      cases r with
      | ping => rfl
      | query text settings => exact congrArg ClientPacket.query (Query.visible_of_secret rfl)

/-- A usable server answers each task with a byte at least. -/
lemma answer_ne_nil (hm : m.Usable) (t : Task) : t.answer m ≠ [] := by
  cases t with
  | connect => simp [answer, ServerHello.encode, ServerCode.encode_ne_nil]
  | ask r =>
      cases r with
      | ping => exact ServerCode.encode_ne_nil _
      | query text settings =>
          obtain ⟨bytes, q, hbytes, hne, -⟩ :=
            (hm.of_prepares (m.prepares_responseTo text)).reads text
          rw [answer, hbytes]
          exact hne

end Task

end ColumnWire.Session
