import Mathlib.Data.List.Forall2
import Mathlib.Tactic.Common
import ColumnWire.Proofs.Packet.ClientRoundTrip
import ColumnWire.Proofs.Session.Call
import ColumnWire.Proofs.Session.Exchange

/-!
# What a client sends

The bytes that a client has sent in a session are those of its greeting and of one packet for each
request that was made while the connection was ready, in order and nothing else, whatever the server
answers: an exchange sends its packet and then only reads (`Wrote.of_frame`), a refused request sends
nothing, and what a failed exchange had pending is not sent with the next one. So the bytes are read back
as these packets.

Main statement: `Opens.transcript_decodes`.
-/

namespace ColumnWire.Session

open ColumnWire.Wire ColumnWire.Packet ColumnWire.Stream

/-! ## Packets of requests -/

/-- The packet in which a request is made of a connection. -/
def Request.packet (c : Connection) : Request → ClientPacket
  | .query text settings => .query (c.queryPacket text settings)
  | .ping => .ping

namespace Connection

/-- The bytes that the peer has taken, if one is attached. -/
def sent (c : Connection) : Option Bytes :=
  c.transport.peer.map Peer.received

/-- The requests that are accepted when requests are made in a row: those that are made while the
connection is ready. -/
def accepted (c : Connection) : List Request → List Request
  | [] => []
  | r :: rest =>
    if c.state = .ready then r :: (r.run c).2.accepted rest else (r.run c).2.accepted rest

/-- The packets of a session: the greeting of the client, and one for each request that is accepted. -/
def transcript (c : Connection) (requests : List Request) : List ClientPacket :=
  .hello (greeting c.config) :: (c.accepted requests).map (Request.packet c)

/-- When requests are made in a row, the packet of each that is accepted can be sent. -/
def Sends (c : Connection) : List Request → Prop
  | [] => True
  | r :: rest =>
    (c.state = .ready → (outcome (transmit (r.packet c).encode c)).isOk = true) ∧
      (r.run c).2.Sends rest

/-- Whether requests are sent can be computed. -/
instance instDecidableSends : (c : Connection) → (requests : List Request) →
    Decidable (c.Sends requests)
  | _, [] => isTrue trivial
  | c, r :: rest =>
    have := instDecidableSends (r.run c).2 rest
    inferInstanceAs (Decidable (_ ∧ _))

variable {c d e : Connection} {data data' : Bytes}

/-! ## Exchanges -/

/-- The connection `d` after bytes were sent from `c`, all of them and nothing else. -/
structure Wrote (c : Connection) (data : Bytes) (d : Connection) : Prop extends SentFrom c d where
  /-- The peer has taken the bytes behind those that it had taken before. -/
  sent : d.sent = c.sent.map (· ++ data)

/-- Nothing has to be sent for nothing. -/
lemma Wrote.nil (hpending : c.output = {}) : Wrote c [] c where
  toSentFrom := ⟨rfl, rfl, rfl, hpending⟩
  sent := by simp

/-- Bytes are sent one after the other. -/
lemma Wrote.trans (h : Wrote c data d) (h' : Wrote d data' e) : Wrote c (data ++ data') e where
  config := h'.config.trans h.config
  server := h'.server.trans h.server
  attached := h'.attached.trans h.attached
  pending := h'.pending
  sent := by
    rw [h'.sent, h.sent, Option.map_map]
    simp [Function.comp_def]

/-- Reading sends nothing. -/
lemma Wrote.of_frame (h : Wrote c data d) (hframe : e.frame = d.frame) : Wrote c data e where
  toSentFrom := h.toSentFrom.of_frame hframe
  sent := by
    have hdrained (f : Connection) : f.frame.sent = f.sent := by
      simp [Connection.sent, transport, frame, Transport.drained, Function.comp_def]
    rw [← hdrained, hframe, hdrained, h.sent]

/-- What could be sent the peer has taken completely. -/
lemma received_of_flush {t t' : Transport} (h : Output.flush { pending := data } t = .ok () t') :
    t'.peer.map Peer.received = (t.peer.map Peer.received).map (· ++ data) := by
  unfold Output.flush at h
  split at h
  · next hempty =>
      obtain rfl : data = [] := List.isEmpty_iff.1 hempty
      cases h
      simp [Function.comp_def]
  · unfold Transport.send at h
    cases hpeer : t.peer with
    | none => simp [hpeer] at h
    | some p =>
        rw [hpeer] at h
        dsimp only at h
        split at h
        · next p' haccept =>
            cases h
            rw [Peer.accept, Prod.mk.injEq, beq_iff_eq] at haccept
            obtain ⟨hroom, rfl⟩ := haccept
            simp [hroom]
        · cases h

/-- Sending, in any state. -/
lemma wrote_transmit (hpending : c.output = {})
    (hsent : (outcome (transmit data c)).isOk = true) (s : State) :
    Wrote c data (finalState (transmit data { c with state := s })) := by
  have hwrite : c.output.write data = { pending := data } := by
    rw [hpending]
    rfl
  refine ⟨sentFrom_transmit data c s, ?_⟩
  rw [finalState_transmit]
  change (finalState ((c.output.write data).flush c.transport)).peer.map Peer.received = _
  rw [transmit, hwrite] at hsent
  rw [hwrite]
  cases hflush : Output.flush { pending := data } c.transport with
  | ok _ t => exact received_of_flush hflush
  | error e t =>
      rw [hflush] at hsent
      cases hsent

/-- A request that is accepted ends in some state with the frame that sending its packet left. -/
lemma run_of_ready (r : Request) (hready : c.state = .ready) :
    ∃ (s t : State) (d : Connection), (r.run c).2 = { d with state := s } ∧
      d.frame = (finalState (transmit (r.packet c).encode { c with state := t })).frame := by
  cases r with
  | query text settings =>
      have hframe := exchangeQuery_frame text settings { c with state := .executing }
      simp only [Request.run, query_of_ready text settings hready]
      cases h : exchangeQuery text settings { c with state := .executing } with
      | error e d =>
          rw [h] at hframe
          exact ⟨.poisoned, .executing, d, rfl, hframe⟩
      | ok answer d =>
          rw [h] at hframe
          refine ⟨.ready, .executing, d, ?_, hframe⟩
          dsimp only
          cases answer.toExcept <;> rfl
  | ping =>
      have hframe := exchangePing_frame c
      simp only [Request.run, ping_of_ready hready]
      cases h : exchangePing c with
      | error e d =>
          rw [h] at hframe
          exact ⟨.poisoned, c.state, d, rfl, hframe⟩
      | ok a d =>
          rw [h] at hframe
          exact ⟨d.state, c.state, d, rfl, hframe⟩

/-- An accepted request sends its packet. -/
lemma run_wrote (r : Request) (hready : c.state = .ready) (hpending : c.output = {})
    (hsent : (outcome (transmit (r.packet c).encode c)).isOk = true) :
    Wrote c (r.packet c).encode (r.run c).2 := by
  obtain ⟨s, t, d, hrun, hframe⟩ := run_of_ready r hready
  have hwrote := (wrote_transmit hpending hsent t).of_frame hframe
  rw [hrun]
  exact ⟨⟨hwrote.config, hwrote.server, hwrote.attached, hwrote.pending⟩, hwrote.sent⟩

/-- The packet of a request depends on the configuration and the server alone. -/
lemma packet_congr (hconfig : d.config = c.config) (hserver : d.server = c.server) :
    Request.packet d = Request.packet c := by
  funext r
  cases r with
  | query text settings =>
      simp only [Request.packet, queryPacket, queryRevision, hconfig, hserver]
  | ping => rfl

/-- Requests in a row send the packets of those that are accepted. -/
lemma after_wrote {requests : List Request} (hpending : c.output = {}) (h : c.Sends requests) :
    Wrote c (((c.accepted requests).map (Request.packet c)).flatMap ClientPacket.encode)
      (c.after (requests.map Call.request)) := by
  induction requests generalizing c with
  | nil => exact .nil hpending
  | cons r rest ih =>
      obtain ⟨hsent, hrest⟩ := h
      by_cases hready : c.state = .ready
      · -- Configuration and server stay, so the packets of the other requests are those of `c` as well.
        have hwrote := run_wrote r hready hpending (hsent hready)
        have hnext := ih hwrote.pending hrest
        rw [packet_congr hwrote.config hwrote.server] at hnext
        rw [accepted, if_pos hready, List.map_cons, List.flatMap_cons]
        exact hwrote.trans hnext
      · have hsame : (r.run c).2 = c := by rw [run_of_not_ready r hready]
        rw [hsame] at hrest
        rw [accepted, if_neg hready, List.map_cons, after, Call.run, hsame]
        exact ih hpending hrest

/-! ## Sessions -/

/-- A session with a peer was opened under a configuration: over a stream, or by connecting to the first
host. -/
inductive Opens (config : Config) (peer : Peer) (c : Connection) : Prop where
  /-- Over a stream. -/
  | stream (h : openWith config peer = .ok () c) : Opens config peer c
  /-- By connecting to the first host, where the peer is. -/
  | network {b : Connection} {dial : HostAddress → Except StreamError Peer} {host : HostAddress}
      (hconfig : b.config = config) (hhost : config.primaryHost = some host)
      (hdial : dial host = .ok peer) (h : connect dial b = .ok () c) : Opens config peer c

/-- Greetings that succeed have sent the greeting of the client, and the server is known. -/
lemma handshakeOr_wrote (hpending : c.output = {}) {failed : State}
    (h : handshakeOr failed c = .ok () d) :
    (∃ hello, d.server = some hello) ∧ d.config = c.config ∧ d.output = {} ∧
      d.sent = c.sent.map (· ++ (greeting c.config).encode) := by
  unfold handshakeOr at h
  cases hshake : handshake c with
  | error e c' => simp [hshake] at h
  | ok a c' =>
      rw [hshake] at h
      cases h
      obtain ⟨b, e, hello, htransmit, hframe, rfl⟩ := handshake_eq_ok hshake
      have hsent : (outcome (transmit (greeting c.config).encode
          { c with state := .handshaking })).isOk = true := by
        rw [htransmit]
        rfl
      have hwrote := wrote_transmit (c := { c with state := .handshaking }) hpending hsent .handshaking
      rw [htransmit] at hwrote
      have hread := hwrote.of_frame hframe
      exact ⟨⟨hello, rfl⟩, hread.config, hread.pending, hread.sent⟩

/-- After a session was opened the peer has taken the greeting of the client. -/
lemma Opens.greeted {config : Config} {peer : Peer} (h : Opens config peer c) :
    (∃ hello, c.server = some hello) ∧ c.config = config ∧ c.output = {} ∧
      c.sent = some (peer.received ++ (greeting config).encode) := by
  cases h with
  | stream h => exact handshakeOr_wrote rfl h
  | @network b dial host hconfig hhost hdial h =>
      subst hconfig
      by_cases hpermitted : b.state = .disconnected ∨ b.state = .closed
      · rw [connect_of_permitted _ hpermitted, hhost] at h
        dsimp only at h
        rw [hdial] at h
        exact handshakeOr_wrote rfl h
      · rw [connect_of_not_permitted _ hpermitted] at h
        cases h

/-- A greeting that introduces the client as configured. -/
structure Introduces (config : Config) (h : ClientHello) : Prop where
  /-- With the name of the client. -/
  clientName : h.clientName = config.clientName
  /-- With the database. -/
  database : h.database = config.database
  /-- With the user. -/
  user : h.user = config.user
  /-- With the password. -/
  password : h.password = config.password

/-- A query that asks for a text with settings of its own, as configured, of a server of a revision. -/
structure Asks (config : Config) (server : Revision) (text : String)
    (settings : List (String × String)) (q : Query) : Prop where
  /-- The text. -/
  text : q.text = text
  /-- The user. -/
  user : q.clientInfo.initialUser = config.user
  /-- Whether blocks are compressed. -/
  compression : q.compression = .enabled ↔ config.compression = true
  /-- The settings, those that are configured first. -/
  settings : q.settings = config.settings ++ settings
  /-- The revision of the server, or of the client while that is unknown. -/
  revision : q.revision = if server.number = 0 then Revision.client else server
  /-- The fields that depend on the revision are there exactly from theirs on. -/
  fields : q.encodeBody = q.front ++
    ((if 54441 ≤ q.revision.number then TextField.encode q.interserverSecret else []) ++
      (q.middle ++ if 54459 ≤ q.revision.number then TextField.encode "" else []))

/-- The packet makes the request, as configured, of a server of a revision. -/
inductive Makes (config : Config) (server : Revision) : Request → ClientPacket → Prop where
  /-- A query. -/
  | query {text : String} {settings : List (String × String)} {q : Query}
      (h : Asks config server text settings q) : Makes config server (.query text settings) (.query q)
  /-- A ping. -/
  | ping : Makes config server .ping .ping

/-- The packet of a request makes it. -/
lemma packet_makes {hello : ServerHello} (hserver : c.server = some hello) (r : Request) :
    Makes c.config hello.revision r (r.packet c) := by
  cases r with
  | ping => exact .ping
  | query text settings =>
      refine .query ⟨rfl, rfl, ?_, rfl, ?_, Query.encodeBody_eq _⟩
      · change Compression.ofFlag c.config.compression = .enabled ↔ c.config.compression = true
        cases c.config.compression <;> decide
      · change c.queryRevision = _
        rw [queryRevision, hserver]
        simp only [Revision.negotiated, Revision.isUnknown, beq_iff_eq]

/-- The other end sees all of a packet of a session. -/
lemma visible_of_mem_transcript {requests : List Request} {p : ClientPacket}
    (h : p ∈ c.transcript requests) : p.visible = p := by
  rcases List.mem_cons.1 h with rfl | h
  · rfl
  · obtain ⟨r, -, rfl⟩ := List.mem_map.1 h
    cases r with
    | ping => rfl
    | query text settings => exact congrArg ClientPacket.query (Query.visible_of_secret rfl)

/-- The bytes that were sent in a session are those of its packets. -/
lemma Opens.sent_after {config : Config} {peer : Peer} (h : Opens config peer c)
    {requests : List Request} (hsends : c.Sends requests) :
    (c.after (requests.map Call.request)).sent =
      some (peer.received ++ (c.transcript requests).flatMap ClientPacket.encode) := by
  obtain ⟨-, rfl, hpending, hgreeted⟩ := h.greeted
  rw [(after_wrote hpending hsends).sent, hgreeted, transcript, List.flatMap_cons, Option.map_some,
    List.append_assoc]
  rfl

/-- The bytes that were sent in a session are read back as the greeting of the client and one packet for
each accepted request in order, with nothing left over. Of the packets no more is asked than that words
count their bytes, as they do in memory. -/
theorem Opens.transcript_decodes {config : Config} {peer : Peer} (h : Opens config peer c)
    {requests : List Request} (hsends : c.Sends requests)
    (hfit : ∀ p ∈ c.transcript requests, p.encode.length < UInt64.size) :
    ∃ (hello : ServerHello) (introduction : ClientHello) (packets : List ClientPacket) (bytes : Bytes),
      c.server = some hello ∧
      (c.after (requests.map Call.request)).sent = some (peer.received ++ bytes) ∧
      repeated (packets.length + 1) ClientPacket.decoder bytes =
        .ok (.hello introduction :: packets) [] ∧
      Introduces config introduction ∧
      List.Forall₂ (Makes config hello.revision) (c.accepted requests) packets := by
  obtain ⟨⟨hello, hserver⟩, rfl, -, -⟩ := h.greeted
  have hspells := ClientPacket.flatMap_encode_spells (fun _ => visible_of_mem_transcript) hfit []
  rw [List.append_nil, transcript, List.length_cons, List.length_map] at hspells
  refine ⟨hello, greeting c.config, (c.accepted requests).map (Request.packet c), _, hserver,
    h.sent_after hsends, ?_, ⟨rfl, rfl, rfl, rfl⟩, ?_⟩
  · rw [List.length_map]
    exact hspells
  · rw [List.forall₂_map_right_iff, List.forall₂_same]
    exact fun r _ => packet_makes hserver r

/-- A server of revision 54460, which ends the answer to a query, answers one ping, and sends something
else than the answer to the next. -/
def strayingPeer : Peer :=
  { incoming := [[0, 0, 0, 0, 188, 169, 3, 0, 0, 0], [5], [4], [9]] }

/-- A query and three pings, of which the last is refused. -/
def sampleRequests : List Request :=
  [.query "SELECT 1" [("max_threads", "1")], .ping, .ping, .ping]

/-- Four packets are read back from what was sent to this server. -/
theorem transcript_decodes_refused :
    ∃ (introduction : ClientHello) (packets : List ClientPacket) (bytes : Bytes),
      ((finalState (openWith {} strayingPeer)).after (sampleRequests.map Call.request)).sent =
        some bytes ∧
      repeated 4 ClientPacket.decoder bytes = .ok (.hello introduction :: packets) [] ∧
      packets.length = 3 := by
  have hopens : Opens {} strayingPeer (finalState (openWith {} strayingPeer)) := by
    obtain ⟨_, h⟩ := eq_ok_of_isOk (r := openWith {} strayingPeer) (by decide +kernel)
    exact .stream h
  have hsends : (finalState (openWith {} strayingPeer)).Sends sampleRequests := by
    decide +kernel
  have hfit : ∀ p ∈ (finalState (openWith {} strayingPeer)).transcript sampleRequests,
      p.encode.length < UInt64.size := by
    decide +kernel
  have haccepted : ((finalState (openWith {} strayingPeer)).accepted sampleRequests).length = 3 := by
    decide +kernel
  obtain ⟨hello, introduction, packets, bytes, -, hsent, hdecodes, -, hmakes⟩ :=
    hopens.transcript_decodes hsends hfit
  have hlength : packets.length = 3 := by rw [← hmakes.length_eq, haccepted]
  rw [hlength] at hdecodes
  exact ⟨introduction, packets, bytes, hsent, hdecodes, hlength⟩

end Connection

end ColumnWire.Session
