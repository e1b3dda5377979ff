import Mathlib.Tactic.Common
import ColumnWire.Proofs.Session.Call
import ColumnWire.Proofs.Session.Exchange
import ColumnWire.Proofs.Stream.Pieces

/-!
# Delivery in pieces

What calls answer does not depend on the pieces in which the bytes of a server arrive. Connections are
compared without these pieces (`Connection.uncut`) and, once the peer has been parted from, without the
bytes that were received from it and never read (`Connection.view`). An exchange respects this: reads do
not notice pieces, and sending adds the same bytes behind what waits (`transmit_respects`,
`exchange_respects`). So every call does (`Call.run_view`), and any calls to peers that send the same are
observed to do the same.

Main statement: `delivery_independent`.
-/

namespace ColumnWire.Session

open ColumnWire.Wire ColumnWire.Packet ColumnWire.Stream

namespace Connection

/-! ## Connections without pieces -/

/-- The connection without the pieces that bytes come in. -/
def uncut (c : Connection) : Connection :=
  { c with input := c.input.uncut }

/-- The connection as calls can observe it. -/
def view (c : Connection) : Connection :=
  { c with input := c.input.view }

variable {c d : Connection}

/-- Connections that are the same but for the pieces are observed to be the same. -/
lemma view_of_uncut (h : c.uncut = d.uncut) : c.view = d.view := by
  have hinput : c.input.view = d.input.view := Input.view_of_uncut (congrArg Connection.input h)
  calc c.view = { c.uncut with input := c.input.view } := rfl
    _ = { d.uncut with input := d.input.view } := by rw [h, hinput]
    _ = d.view := rfl

/-- While a peer is attached, connections that are observed to be the same are so but for the pieces. -/
lemma uncut_of_view (hc : c.transport.isConnected = true) (h : c.view = d.view) :
    c.uncut = d.uncut := by
  have hinput : c.input.uncut = d.input.uncut := Input.uncut_of_view hc (congrArg Connection.input h)
  calc c.uncut = { c.view with input := c.input.uncut } := rfl
    _ = { d.view with input := d.input.uncut } := by rw [h, hinput]
    _ = d.uncut := rfl

/-- What the view of a connection tells is the same for connections that are observed to be the same. -/
lemma eq_of_view {α : Type} (tell : Connection → α) (htell : ∀ e, tell e.view = tell e)
    (h : c.view = d.view) : tell c = tell d := by
  rw [← htell c, h, htell d]

/-- Whether a peer is attached can be observed. -/
lemma isConnected_of_view (h : c.view = d.view) :
    c.transport.isConnected = d.transport.isConnected :=
  eq_of_view (fun e => e.transport.isConnected) (fun e => e.transport.isConnected_uncut) h

/-- The state can be observed. -/
lemma state_of_view (h : c.view = d.view) : c.state = d.state :=
  eq_of_view Connection.state (fun _ => rfl) h

/-! ## Exchanges -/

/-- What a peer answers waits behind what waited before, in pieces or not. -/
lemma uncut_withTransport {t t' : Transport} (hsame : t'.uncut = t.uncut)
    (hwaits : t.outstanding = c.transport.outstanding ++ t'.outstanding) :
    uncut { c.uncut.withTransport t' with output := {} } =
      uncut { c.withTransport t with output := {} } := by
  have hinput : Input.uncut { transport := t', buffer := c.input.unread } =
      Input.uncut { transport := t, buffer := c.input.buffer } := by
    simp only [Input.uncut, Input.unread_eq, hsame, hwaits, List.append_assoc]
    rfl
  simp only [uncut, withTransport]
  rw [← hinput]
  rfl

/-- Sending respects pieces. -/
lemma transmit_respects (data : Bytes) : Respects uncut (transmit data) := by
  apply Respects.of_map
  intro c
  obtain ⟨hsame, hwaits⟩ := (c.output.write data).flush_uncut c.transport
  unfold transmit
  rw [show c.uncut.output = c.output from rfl, show c.uncut.transport = c.transport.uncut from rfl]
  cases hflush : (c.output.write data).flush c.transport with
  | ok a t =>
      rw [hflush, mapState_ok] at hsame
      obtain ⟨t', ht', hu⟩ := mapState_eq_ok.1 hsame
      rw [hflush, ht'] at hwaits
      rw [ht']
      exact congrArg (EStateM.Result.ok ()) (uncut_withTransport hu hwaits)
  | error e t =>
      rw [hflush, mapState_error] at hsame
      obtain ⟨t', ht', hu⟩ := mapState_eq_error.1 hsame
      rw [hflush, ht'] at hwaits
      rw [ht']
      exact congrArg (EStateM.Result.error (ClientError.stream e)) (uncut_withTransport hu hwaits)

/-- Reading respects pieces. -/
lemma fromInput_respects {α : Type} {r : Reader α} (h : Commutes Input.uncut r) :
    Respects uncut (fromInput r) := by
  apply Commutes.respects
  intro c
  have hr := h c.input
  unfold fromInput
  cases hs : r c.input with
  | ok a i => simp [uncut, hr, hs]
  | error e i => simp [uncut, hr, hs]

/-- Receiving respects pieces. -/
lemma fromServer_respects {α : Type} {m : Receive α}
    (h : Commutes (Receiver.mapInput Input.uncut) m) : Respects uncut (fromServer m) := by
  apply Commutes.respects
  intro c
  have hm := h ⟨c.input, c.types⟩
  rw [Receiver.mapInput] at hm
  unfold fromServer
  cases hs : m ⟨c.input, c.types⟩ with
  | ok a s => simp [uncut, hm, hs, Receiver.mapInput]
  | error e s => simp [uncut, hm, hs, Receiver.mapInput]

/-- Reading the answer to a greeting respects pieces. -/
lemma readGreeting_respects : Respects uncut readGreeting := by
  refine (fromInput_respects (Input.uncut_unnoticed.read .varint)).bind fun raw => ?_
  split
  · exact fromInput_respects (Input.uncut_unnoticed.read (.frame .serverHello))
  · refine (fromInput_respects (readException_commutes Input.uncut_unnoticed)).bind fun e => ?_
    exact Respects.throw _
  · exact Respects.throw _

/-- Answers that are the same but for the pieces are observed to be the same. -/
lemma mapState_view {α : Type} {x y : EStateM.Result ClientError Connection α}
    (h : mapState uncut x = mapState uncut y) : mapState view x = mapState view y := by
  cases x with
  | ok a c =>
      obtain ⟨d, rfl, hd⟩ := mapState_eq_ok.1 h.symm
      rw [mapState_ok, mapState_ok, view_of_uncut hd]
  | error e c =>
      obtain ⟨d, rfl, hd⟩ := mapState_eq_error.1 h.symm
      rw [mapState_error, mapState_error, view_of_uncut hd]

/-- Without a peer nothing is sent. -/
lemma transmit_of_detached {data : Bytes} (hdata : data ≠ [])
    (hc : ¬ c.transport.isConnected = true) :
    transmit data c = .error (.stream .notConnected) { c with output := {} } := by
  have hpeer : c.transport.peer = none := by
    simpa [Transport.isConnected] using hc
  have hflush : (c.output.write data).flush c.transport = .error .notConnected c.transport := by
    rw [Output.flush, if_neg (by simp [Output.isEmpty, Output.write, hdata]), Transport.send, hpeer]
  rw [transmit, hflush]
  rfl

/-- An exchange that sends something and goes on respecting pieces is observed to do the same. Without a
peer it fails before it reads. -/
lemma exchange_respects {α : Type} {data : Bytes} (hdata : data ≠ []) {k : Unit → Exchange α}
    (hk : ∀ a, Respects uncut (k a)) : Respects view (transmit data >>= k) := by
  intro c d h
  by_cases hc : c.transport.isConnected = true
  · exact mapState_view ((transmit_respects data).bind hk c d (uncut_of_view hc h))
  · have hd : ¬ d.transport.isConnected = true := by
      rw [← isConnected_of_view h]
      exact hc
    rw [bind_error (transmit_of_detached hdata hc), bind_error (transmit_of_detached hdata hd)]
    have hsame : view { c with output := {} } = view { d with output := {} } :=
      congrArg (fun e : Connection => { e with output := {} }) h
    rw [mapState_error, mapState_error, hsame]

/-- The greeting of a client is not empty. -/
lemma greeting_ne_nil (config : Config) : (greeting config).encode ≠ [] := by
  simp [ClientHello.encode, ClientCode.encode, Varint.encode_ne_nil]

/-- Greetings are observed to go the same. -/
lemma handshake_respects : Respects view handshake := by
  intro c d h
  have hgreeting : greeting c.config = greeting d.config :=
    eq_of_view (fun e => greeting e.config) (fun _ => rfl) h
  have hsame : view { c with state := .handshaking } = view { d with state := .handshaking } :=
    congrArg (fun e : Connection => { e with state := .handshaking }) h
  rw [handshake_eq, handshake_eq, hgreeting]
  refine exchange_respects (greeting_ne_nil d.config) (fun _ => ?_) _ _ hsame
  exact readGreeting_respects.bind fun hello => Commutes.respects fun _ => rfl

/-- A ping is observed to go the same. -/
lemma exchangePing_respects : Respects view exchangePing := by
  refine exchange_respects (by simp [ClientCode.encode, Varint.encode_ne_nil]) fun _ => ?_
  refine (fromInput_respects (Input.uncut_unnoticed.read .varint)).bind fun raw => ?_
  split
  · exact Respects.throw _
  · exact Respects.pure ()

/-- An exchange for a query is observed to go the same. -/
lemma exchangeQuery_respects (text : String) (settings : List (String × String)) :
    Respects view (exchangeQuery text settings) := by
  refine Respects.get_bind (fun {c d} h => ?_) fun c => ?_
  · have hpacket : c.queryPacket text settings = d.queryPacket text settings :=
      eq_of_view (fun e => e.queryPacket text settings) (fun _ => rfl) h
    rw [hpacket]
  · refine exchange_respects ?_ fun _ =>
      fromServer_respects (receiveResult_commutes Input.uncut_unnoticed)
    simp [Query.encode, ClientCode.encode, Varint.encode_ne_nil]

/-! ## Operations -/

/-- Nothing is left to read after parting from the peer. -/
lemma view_parted (c : Connection) (s : State) :
    view { c.withTransport c.transport.close with state := s } =
      { c.view with
        input := { transport := c.view.input.transport.close, buffer := [] }
        state := s } := by
  have hinput : Input.view { c.input with transport := c.transport.close } =
      { transport := c.view.input.transport.close, buffer := [] } := by
    simp only [Input.view, isConnected_close, Bool.false_eq_true, if_false]
    rw [← Transport.close_uncut]
    rfl
  simp only [view, withTransport]
  rw [hinput]
  rfl

/-- All that waits is what a peer that was just attached has sent. -/
lemma view_attached (p : Peer) (c : Connection) :
    view (c.connecting.withTransport (c.transport.attach p)) =
      { c.view with
        input := { transport := c.view.input.transport.attach p.uncut, buffer := p.outstanding }
        output := {}
        state := .connecting } := rfl

/-- Nor can the pieces be told of a peer that a stream was opened to. -/
lemma view_ofTransport (config : Config) {p q : Peer} (h : p.whole = q.whole) :
    view (ofTransport config (Transport.attached p config.timeouts)) =
      view (ofTransport config (Transport.attached q config.timeouts)) := by
  have hopened (p : Peer) : view (ofTransport config (Transport.attached p config.timeouts)) =
      { ofTransport config (Transport.attached p.uncut config.timeouts) with
        input :=
          { transport := Transport.attached p.uncut config.timeouts
            buffer := p.outstanding } } := rfl
  rw [hopened, hopened, Peer.uncut_of_whole h, Peer.outstanding_of_whole h]

/-- Nothing is left to read if no peer is reached. -/
lemma view_unreached (c : Connection) :
    view { c.connecting.withTransport c.transport.close with state := .disconnected } =
      { c.view with
        input := { transport := c.view.input.transport.close, buffer := [] }
        output := {}
        state := .disconnected } :=
  view_parted c.connecting .disconnected

/-- Where one network reaches a peer, the other reaches one that sends the same. -/
lemma dialed_whole {x y : Except StreamError Peer} (h : x.map Peer.whole = y.map Peer.whole) :
    (∃ e, x = .error e ∧ y = .error e) ∨ ∃ p q, x = .ok p ∧ y = .ok q ∧ p.whole = q.whole := by
  rcases x with e | p
  · rcases y with e' | q
    · exact .inl ⟨e, rfl, h.symm⟩
    · cases h
  · rcases y with e' | q
    · cases h
    · exact .inr ⟨p, q, rfl, rfl, Except.ok.inj h⟩

/-- Greetings are observed to go the same, and so is what their failure leaves. -/
lemma handshakeOr_respects (failed : State) : Respects view (handshakeOr failed) := by
  intro c d h
  unfold handshakeOr
  cases hc : handshake c with
  | ok a c' =>
      obtain ⟨d', hd, hview⟩ := handshake_respects.eq_ok h hc
      rw [hd]
      exact congrArg (EStateM.Result.ok a) hview.symm
  | error e c' =>
      obtain ⟨d', hd, hview⟩ := handshake_respects.eq_error h hc
      rw [hd]
      simp only [mapState_error, view_parted, hview]

/-- Connecting is observed to go the same to peers that send the same. -/
lemma connect_view {dial dial' : HostAddress → Except StreamError Peer}
    (hdial : ∀ host, (dial host).map Peer.whole = (dial' host).map Peer.whole)
    (h : c.view = d.view) : mapState view (connect dial c) = mapState view (connect dial' d) := by
  have hstate := state_of_view h
  have hconfig : c.config = d.config := eq_of_view Connection.config (fun _ => rfl) h
  by_cases hpermitted : c.state = .disconnected ∨ c.state = .closed
  · rw [connect_of_permitted dial hpermitted, connect_of_permitted dial' (hstate ▸ hpermitted),
      ← hconfig]
    cases c.config.primaryHost with
    | none => exact congrArg (EStateM.Result.error _) h
    | some host =>
        dsimp only
        rcases dialed_whole (hdial host) with ⟨e, hd, hd'⟩ | ⟨p, q, hd, hd', hsame⟩
        · rw [hd, hd']
          simp only [mapState_error, view_unreached, h]
        · rw [hd, hd']
          apply handshakeOr_respects
          rw [view_attached, view_attached, h, Peer.uncut_of_whole hsame,
            Peer.outstanding_of_whole hsame]
  · rw [connect_of_not_permitted dial hpermitted, connect_of_not_permitted dial' (hstate ▸ hpermitted),
      hstate]
    exact congrArg (EStateM.Result.error _) h

/-- A query is observed to go the same. -/
lemma query_respects (text : String) (settings : List (String × String)) :
    Respects view (query text settings) := by
  intro c d h
  have hstate := state_of_view h
  by_cases hready : c.state = .ready
  · have hsame : view { c with state := .executing } = view { d with state := .executing } :=
      congrArg (fun e : Connection => { e with state := .executing }) h
    rw [query_of_ready text settings hready, query_of_ready text settings (hstate ▸ hready)]
    cases hc : exchangeQuery text settings { c with state := .executing } with
    | error e c' =>
        obtain ⟨d', hd, hview⟩ := (exchangeQuery_respects text settings).eq_error hsame hc
        have hpoisoned : view { c' with state := .poisoned } = view { d' with state := .poisoned } :=
          congrArg (fun e : Connection => { e with state := .poisoned }) hview.symm
        rw [hd]
        exact congrArg (EStateM.Result.error e) hpoisoned
    | ok r c' =>
        obtain ⟨d', hd, hview⟩ := (exchangeQuery_respects text settings).eq_ok hsame hc
        have hagain : view { c' with state := .ready } = view { d' with state := .ready } :=
          congrArg (fun e : Connection => { e with state := .ready }) hview.symm
        rw [hd]
        dsimp only
        cases r.toExcept with
        | ok r => exact congrArg (EStateM.Result.ok r) hagain
        | error e => exact congrArg (EStateM.Result.error e) hagain
  · rw [query_of_not_ready text settings hready, query_of_not_ready text settings (hstate ▸ hready),
      hstate]
    exact congrArg (EStateM.Result.error _) h

/-- A ping is observed to go the same. -/
lemma ping_view (h : c.view = d.view) : c.ping.1 = d.ping.1 ∧ c.ping.2.view = d.ping.2.view := by
  have hstate := state_of_view h
  by_cases hready : c.state = .ready
  · rw [ping_of_ready hready, ping_of_ready (hstate ▸ hready)]
    cases hc : exchangePing c with
    | error e c' =>
        obtain ⟨d', hd, hview⟩ := exchangePing_respects.eq_error h hc
        rw [hd]
        exact ⟨rfl, congrArg (fun e : Connection => { e with state := .poisoned }) hview.symm⟩
    | ok a c' =>
        obtain ⟨d', hd, hview⟩ := exchangePing_respects.eq_ok h hc
        rw [hd]
        exact ⟨rfl, hview.symm⟩
  · rw [ping_of_not_ready hready, ping_of_not_ready (hstate ▸ hready)]
    exact ⟨rfl, h⟩

/-- Closing is observed to do the same. -/
lemma close_view (h : c.view = d.view) : c.close.view = d.close.view := by
  have hclosed (e : Connection) : e.close.view =
      { (view { e.withTransport e.transport.close with state := .closed }) with
        output := {}
        server := none } := by
    simp only [view, close, withTransport, Input.view, isConnected_close]
    rfl
  simp only [hclosed, view_parted, h]

end Connection

/-! ## Calls -/

/-- The call, to peers that send all in one piece. -/
def Call.whole : Call → Call
  | .connect dial => .connect fun host => (dial host).map Peer.whole
  | .request r => .request r
  | .close => .close

/-- Calls to peers that send the same are observed to do the same. -/
lemma Call.run_view {c d : Connection} {call call' : Call} (hcall : call.whole = call'.whole)
    (h : c.view = d.view) :
    (call.run c).1 = (call'.run d).1 ∧ (call.run c).2.view = (call'.run d).2.view := by
  cases call with
  | connect dial =>
      cases call' with
      | connect dial' =>
          have hsame := Connection.connect_view (congrFun (Call.connect.inj hcall)) h
          obtain ⟨houtcome, hview⟩ := mapState_eq_mapState.1 hsame
          exact ⟨congrArg Reply.connected houtcome, hview⟩
      | _ => cases hcall
  | request r =>
      cases call' with
      | request r' =>
          obtain rfl := Call.request.inj hcall
          cases r with
          | query text settings =>
              have hsame := Connection.query_respects text settings c d h
              obtain ⟨houtcome, hview⟩ := mapState_eq_mapState.1 hsame
              exact ⟨congrArg Reply.result houtcome, hview⟩
          | ping =>
              obtain ⟨hanswered, hview⟩ := Connection.ping_view h
              exact ⟨congrArg Reply.alive hanswered, hview⟩
      | _ => cases hcall
  | close =>
      cases call' with
      | close => exact ⟨rfl, Connection.close_view h⟩
      | _ => cases hcall

namespace Connection

/-- What can be told about a connection between two calls. -/
structure Observation where
  /-- The state. -/
  state : State
  /-- The greeting of the server. -/
  server : Option ServerHello
  /-- Everything that was sent to each peer, the latest peer first. -/
  sent : List Bytes

/-- What can be told about the connection. -/
def observed (c : Connection) : Observation where
  state := c.state
  server := c.server
  sent := c.transport.peers.map Peer.received

/-- The replies to calls, each with what can be told about the connection after it. -/
def observe (c : Connection) : List Call → List (Reply × Observation)
  | [] => []
  | call :: rest => ((call.run c).1, (call.run c).2.observed) :: (call.run c).2.observe rest

/-- Pieces cannot be told. -/
lemma observed_view (c : Connection) : c.view.observed = c.observed := by
  have hsent : c.transport.uncut.peers.map Peer.received = c.transport.peers.map Peer.received := by
    unfold Transport.peers
    cases hpeer : c.transport.peer <;> simp [Transport.uncut, hpeer, Peer.uncut, Function.comp_def]
  rw [observed, observed, ← hsent]
  rfl

/-- Nothing differs between calls to peers that send the same. -/
lemma observe_of_view {c d : Connection} (h : c.view = d.view) {calls calls' : List Call}
    (hcalls : calls.map Call.whole = calls'.map Call.whole) : c.observe calls = d.observe calls' := by
  induction calls generalizing c d calls' with
  | nil => rw [List.map_eq_nil_iff.1 hcalls.symm, observe, observe]
  | cons call rest ih =>
      obtain ⟨call', rest', rfl, hcall, hrest⟩ := List.map_eq_cons_iff.1 hcalls.symm
      obtain ⟨hreply, hview⟩ := Call.run_view hcall.symm h
      rw [observe, observe, hreply, ← observed_view, hview, observed_view, ih hview hrest.symm]

/-- The pieces in which the bytes of peers arrive make no difference: opening a session over a stream
has the same outcome, and then, or on a new connection that has yet to connect, any calls have the same
replies and the same observations after each. -/
theorem delivery_independent (config : Config) {p q : Peer} (hpeer : p.whole = q.whole)
    {calls calls' : List Call} (hcalls : calls.map Call.whole = calls'.map Call.whole) :
    outcome (openWith config p) = outcome (openWith config q) ∧
      (finalState (openWith config p)).observed = (finalState (openWith config q)).observed ∧
      (finalState (openWith config p)).observe calls =
        (finalState (openWith config q)).observe calls' ∧
      (new config).observe calls = (new config).observe calls' := by
  have hopened := handshakeOr_respects .closed _ _ (view_ofTransport config hpeer)
  obtain ⟨houtcome, hview⟩ := mapState_eq_mapState.1 hopened
  refine ⟨houtcome, ?_, observe_of_view hview hcalls, observe_of_view rfl hcalls⟩
  rw [openWith, ← observed_view, hview, observed_view]
  rfl

/-- A greeting, the answer to a ping and the beginning of an exception, in three pieces. -/
def threePieces : List Bytes := [[0, 0, 0], [0, 0, 4, 2], [4]]

/-- The same bytes one by one. -/
def singleBytes : List Bytes := [[0], [0], [0], [0], [0], [4], [2], [4]]

/-- A ping and a query, and a ping of another peer. -/
def mixedCalls (pieces : List Bytes) : List Call :=
  [.request .ping, .request (.query "SELECT 1" []), .close,
    .connect fun _ => .ok { incoming := pieces }, .request .ping]

/-- Three pieces and single bytes open a session alike, and all calls go the same in it. -/
theorem delivery_independent_threePieces :
    (finalState (openWith {} { incoming := threePieces })).state = .ready ∧
      (finalState (openWith {} { incoming := singleBytes })).state = .ready ∧
      (finalState (openWith {} { incoming := threePieces })).observe (mixedCalls threePieces) =
        (finalState (openWith {} { incoming := singleBytes })).observe (mixedCalls singleBytes) := by
  have hpeer : ({ incoming := threePieces } : Peer).whole = { incoming := singleBytes : Peer }.whole :=
    Peer.whole_of_flatten {} rfl
  have hcalls : (mixedCalls threePieces).map Call.whole = (mixedCalls singleBytes).map Call.whole := by
    simp only [mixedCalls, List.map_cons, List.map_nil, Call.whole, Except.map, hpeer]
  obtain ⟨-, hobserved, hcalls, -⟩ := delivery_independent {} hpeer hcalls
  have hready : (finalState (openWith {} { incoming := threePieces })).state = .ready := by
    decide +kernel
  simp only [observed, Observation.mk.injEq] at hobserved
  exact ⟨hready, hobserved.1.symm.trans hready, hcalls⟩

end Connection

end ColumnWire.Session
