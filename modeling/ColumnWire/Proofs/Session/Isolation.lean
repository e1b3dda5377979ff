import Mathlib.Tactic.Common
import ColumnWire.Proofs.Session.Delivery
import ColumnWire.Proofs.Session.Lifecycle

/-!
# A new session tells nothing of a former one

Two connections are compared that differ in what is left of former sessions: one remembers peers that it
parted from, and both have looked different types up (`Connection.Resumes`). Former peers are not read
from and not written to, and sound type caches answer the same, so every exchange answers alike and leads
to connections that compare in the same way (`Alike`); so does every call (`Call.run_resumes`).

Connecting forgets the rest. A reachable connection that can connect knows no server, has nothing pending
and no peer (`AtRest`), and its time limits are those of its configuration (`Reachable.timed`); connecting
drops what is in its buffer. So after connecting it compares with a new connection that was connected to
the same peer. Main statement: `reconnect_isolated`.
-/

namespace ColumnWire.Stream

open ColumnWire.Wire

/-! ## Former peers -/

/-- The transport with more former peers, parted from before the others. -/
def Transport.withFormer (former : List Peer) (t : Transport) : Transport :=
  { t with parted := t.parted ++ former }

/-- The input over such a transport. -/
def Input.withFormer (former : List Peer) (s : Input) : Input :=
  { s with transport := s.transport.withFormer former }

/-- Reads do not notice former peers. -/
lemma Input.withFormer_unnoticed (former : List Peer) : Unnoticed (withFormer former) := by
  have hsame : withFormer former = reshape id (· ++ former) := by
    funext s
    have hpeer : s.transport.peer.map (Peer.reshape id) = s.transport.peer := Option.map_id'
    simp only [withFormer, reshape, Transport.reshape, hpeer]
    rfl
  rw [hsame]
  exact reshape_unnoticed id (· ++ former)

/-- Nor does sending. -/
lemma Transport.flush_withFormer (former : List Peer) (o : Output) :
    Commutes (withFormer former) o.flush := by
  intro t
  unfold Output.flush
  split
  · rfl
  · unfold send
    rw [show (t.withFormer former).peer = t.peer from rfl]
    cases t.peer with
    | none => rfl
    | some p =>
        dsimp only
        cases p.accept o.pending with
        | mk taken p' => cases taken <;> rfl

/-- A peer that is parted from is put before the former ones. -/
lemma Transport.close_withFormer (former : List Peer) (t : Transport) :
    (t.withFormer former).close = t.close.withFormer former := by
  unfold close
  rw [show (t.withFormer former).peer = t.peer from rfl]
  cases t.peer <;> rfl

end ColumnWire.Stream

namespace ColumnWire.Session

open ColumnWire.Wire ColumnWire.Packet ColumnWire.Cell ColumnWire.Stream

variable {former : List Peer}

/-! ## Receiving -/

/-- The first receiver is the second one with more former peers and other sound types. -/
inductive Receiver.Resumes (former : List Peer) : Receiver → Receiver → Prop where
  /-- Over the input of the second one. -/
  | mk (input : Input) {types types' : TypeCache} (h : types.Sound) (h' : types'.Sound) :
      Resumes former ⟨input.withFormer former, types⟩ ⟨input, types'⟩

/-- A read is alike if it does not notice former peers. -/
lemma reading_alike {α : Type} {r : Reader α} (h : Commutes (Input.withFormer former) r) :
    Alike (Receiver.Resumes former) (reading r) := by
  rintro _ _ ⟨input, htypes, htypes'⟩
  unfold reading
  dsimp only
  rw [h input]
  cases r input with
  | ok a i => exact .ok a ⟨i, htypes, htypes'⟩
  | error e i => exact .error _ ⟨i, htypes, htypes'⟩

/-- Sound types answer alike. -/
lemma resolve_alike (c : Column) : Alike (Receiver.Resumes former) (resolve c) := by
  rintro _ _ ⟨input, htypes, htypes'⟩
  have hfound (types : TypeCache) (h : types.Sound) : types.get c.typeName =
      (ColumnType.parse c.typeName, (types.get c.typeName).2) :=
    Prod.ext (h.get_eq_parse c.typeName) rfl
  unfold resolve
  dsimp only
  rw [hfound _ htypes, hfound _ htypes']
  cases ColumnType.parse c.typeName with
  | ok t => exact .ok (c, t) ⟨input, htypes.get c.typeName, htypes'.get c.typeName⟩
  | error e => exact .error _ ⟨input, htypes.get c.typeName, htypes'.get c.typeName⟩

/-- Reading a cell is alike. -/
lemma readingCell_alike (c : Column) (t : ColumnType) :
    Alike (Receiver.Resumes former) (readingCell c t) := by
  rintro _ _ ⟨input, htypes, htypes'⟩
  unfold readingCell
  dsimp only
  rw [t.read_commutes (Input.withFormer_unnoticed former) input]
  cases t.read input with
  | ok v i => exact .ok v ⟨i, htypes, htypes'⟩
  | error e i => exact .error _ ⟨i, htypes, htypes'⟩

/-- Receiving a response is alike. -/
lemma receiveResult_alike : Alike (Receiver.Resumes former) receiveResult := by
  have hunnoticed := Input.withFormer_unnoticed former
  have hsteps : OfSteps fun (α : Type) (m : Receive α) => Alike (Receiver.Resumes former) m :=
    { toComposes := Alike.composes
      read := fun op => reading_alike (hunnoticed.read op)
      resolve := resolve_alike
      cell := readingCell_alike
      width := fun _ _ => Alike.throw _ }
  rintro _ _ ⟨input, htypes, htypes'⟩
  unfold receiveResult
  dsimp only
  rw [hunnoticed.count input]
  exact hsteps.receivePackets (reading_alike hunnoticed.atEnd)
    (reading_alike (readException_commutes hunnoticed)) input.unreadCount {} _ _ ⟨input, htypes, htypes'⟩

namespace Connection

/-! ## Exchanges -/

/-- The first connection is the second one with more former peers and other sound types. -/
inductive Resumes (former : List Peer) : Connection → Connection → Prop where
  /-- What the second one has beside them. -/
  | mk (d : Connection) (types : TypeCache) (h : types.Sound) (h' : d.types.Sound) :
      Resumes former { d with input := d.input.withFormer former, types := types } d

variable {c d : Connection}

/-- Sending is alike. -/
lemma transmit_alike (data : Bytes) : Alike (Resumes former) (transmit data) := by
  rintro _ d ⟨_, types, htypes, htypes'⟩
  have hflush := Transport.flush_withFormer former (d.output.write data) d.transport
  unfold transmit transport at *
  dsimp only [Input.withFormer] at *
  rw [hflush]
  cases (d.output.write data).flush d.input.transport with
  | ok a t => exact .ok () ⟨{ d.withTransport t with output := {} }, types, htypes, htypes'⟩
  | error e t => exact .error _ ⟨{ d.withTransport t with output := {} }, types, htypes, htypes'⟩

/-- A read is alike if it does not notice former peers. -/
lemma fromInput_alike {α : Type} {r : Reader α} (h : Commutes (Input.withFormer former) r) :
    Alike (Resumes former) (fromInput r) := by
  rintro _ d ⟨_, types, htypes, htypes'⟩
  unfold fromInput
  dsimp only
  rw [h d.input]
  cases r d.input with
  | ok a i => exact .ok a ⟨{ d with input := i }, types, htypes, htypes'⟩
  | error e i => exact .error _ ⟨{ d with input := i }, types, htypes, htypes'⟩

/-- Receiving is alike. -/
lemma fromServer_alike {α : Type} {m : Receive α} (h : Alike (Receiver.Resumes former) m) :
    Alike (Resumes former) (fromServer m) := by
  rintro _ d ⟨_, types, htypes, htypes'⟩
  have hm := h _ _ (Receiver.Resumes.mk d.input htypes htypes')
  unfold fromServer
  dsimp only
  rcases hm.cases with ⟨a, s, t, hs, ht, ⟨input, h₁, h₂⟩⟩ | ⟨e, s, t, hs, ht, ⟨input, h₁, h₂⟩⟩
  · rw [hs, ht]
    exact .ok a ⟨{ d with input := input, types := _ }, _, h₁, h₂⟩
  · rw [hs, ht]
    exact .error e ⟨{ d with input := input, types := _ }, _, h₁, h₂⟩

/-- Passing to a state is alike. -/
lemma Resumes.enter (h : Resumes former c d) (s : State) :
    Resumes former { c with state := s } { d with state := s } := by
  obtain ⟨_, types, htypes, htypes'⟩ := h
  exact ⟨{ d with state := s }, types, htypes, htypes'⟩

/-- The states are the same. -/
lemma Resumes.state_eq (h : Resumes former c d) : c.state = d.state := by
  cases h
  rfl

/-- The configurations are the same. -/
lemma Resumes.config_eq (h : Resumes former c d) : c.config = d.config := by
  cases h
  rfl

/-- Reading the answer to a greeting is alike. -/
lemma readGreeting_alike : Alike (Resumes former) readGreeting := by
  have hunnoticed := Input.withFormer_unnoticed former
  refine (fromInput_alike (hunnoticed.read .varint)).bind fun raw => ?_
  split
  · exact fromInput_alike (hunnoticed.read (.frame .serverHello))
  · exact (fromInput_alike (readException_commutes hunnoticed)).bind fun e => Alike.throw _
  · exact Alike.throw _

/-- Greetings go alike. -/
lemma handshake_alike : Alike (Resumes former) handshake := by
  intro c d h
  have hgreeting : greeting c.config = greeting d.config := by rw [h.config_eq]
  rw [handshake_eq, handshake_eq, hgreeting]
  refine (transmit_alike _).bind (fun _ => readGreeting_alike.bind fun hello => ?_) _ _
    (h.enter .handshaking)
  rintro _ d' ⟨_, types, htypes, htypes'⟩
  exact .ok () ⟨{ d' with server := some hello, state := .ready }, types, htypes, htypes'⟩

/-- A ping goes alike. -/
lemma exchangePing_alike : Alike (Resumes former) exchangePing := by
  have hunnoticed := Input.withFormer_unnoticed former
  refine (transmit_alike _).bind fun _ => (fromInput_alike (hunnoticed.read .varint)).bind fun raw => ?_
  split
  · exact Alike.throw _
  · exact Alike.pure ()

/-- An exchange for a query goes alike. -/
lemma exchangeQuery_alike (text : String) (settings : List (String × String)) :
    Alike (Resumes former) (exchangeQuery text settings) := by
  rintro _ d ⟨_, types, htypes, htypes'⟩
  exact ((transmit_alike _).bind fun _ => fromServer_alike receiveResult_alike) _ _
    ⟨d, types, htypes, htypes'⟩

/-! ## Operations -/

/-- Parting from the peer keeps the connections comparable. -/
lemma Resumes.part (h : Resumes former c d) (s : State) :
    Resumes former { c.withTransport c.transport.close with state := s }
      { d.withTransport d.transport.close with state := s } := by
  obtain ⟨_, types, htypes, htypes'⟩ := h
  have hclose := Transport.close_withFormer former d.transport
  have hresumes := @Resumes.mk former
    { d.withTransport d.transport.close with state := s } types htypes htypes'
  simp only [withTransport, transport, Input.withFormer] at hclose hresumes ⊢
  rwa [hclose]

/-- Greetings go alike, and so does what their failure leaves. -/
lemma handshakeOr_alike (failed : State) : Alike (Resumes former) (handshakeOr failed) := by
  intro c d h
  unfold handshakeOr
  rcases (handshake_alike c d h).cases with ⟨a, c', d', hc, hd, h'⟩ | ⟨e, c', d', hc, hd, h'⟩
  · rw [hc, hd]
    exact .ok a h'
  · rw [hc, hd]
    exact .error e (h'.part failed)

/-- The connection when it has reached a peer and no greetings were exchanged. -/
def reaching (c : Connection) (p : Peer) : Connection :=
  c.connecting.withTransport (c.transport.attach p)

/-- Reaching a peer keeps the connections comparable. -/
lemma Resumes.reaching (h : Resumes former c d) (p : Peer) :
    Resumes former (c.reaching p) (d.reaching p) := by
  obtain ⟨_, types, htypes, htypes'⟩ := h
  exact ⟨d.reaching p, types, htypes, htypes'⟩

/-- Starting to connect keeps the connections comparable. -/
lemma Resumes.connecting (h : Resumes former c d) : Resumes former c.connecting d.connecting := by
  obtain ⟨_, types, htypes, htypes'⟩ := h
  exact ⟨d.connecting, types, htypes, htypes'⟩

/-- Connecting goes alike. -/
lemma connect_alike (dial : HostAddress → Except StreamError Peer) :
    Alike (Resumes former) (connect dial) := by
  intro c d h
  have hstate := h.state_eq
  by_cases hpermitted : c.state = .disconnected ∨ c.state = .closed
  · rw [connect_of_permitted dial hpermitted, connect_of_permitted dial (hstate ▸ hpermitted),
      h.config_eq]
    cases d.config.primaryHost with
    | none => exact .error _ h
    | some host =>
        dsimp only
        cases dial host with
        | ok p => exact handshakeOr_alike .disconnected _ _ (h.reaching p)
        | error e => exact .error _ (h.connecting.part .disconnected)
  · rw [connect_of_not_permitted dial hpermitted, connect_of_not_permitted dial (hstate ▸ hpermitted),
      hstate]
    exact .error _ h

/-- A query goes alike. -/
lemma query_alike (text : String) (settings : List (String × String)) :
    Alike (Resumes former) (query text settings) := by
  intro c d h
  have hstate := h.state_eq
  by_cases hready : c.state = .ready
  · rw [query_of_ready text settings hready, query_of_ready text settings (hstate ▸ hready)]
    rcases (exchangeQuery_alike text settings _ _ (h.enter .executing)).cases with
      ⟨r, c', d', hc, hd, h'⟩ | ⟨e, c', d', hc, hd, h'⟩
    · rw [hc, hd]
      dsimp only
      cases r.toExcept with
      | ok r => exact .ok r (h'.enter .ready)
      | error e => exact .error e (h'.enter .ready)
    · rw [hc, hd]
      exact .error e (h'.enter .poisoned)
  · rw [query_of_not_ready text settings hready, query_of_not_ready text settings (hstate ▸ hready),
      hstate]
    exact .error _ h

/-- A ping goes alike. -/
lemma ping_resumes (h : Resumes former c d) :
    c.ping.1 = d.ping.1 ∧ Resumes former c.ping.2 d.ping.2 := by
  have hstate := h.state_eq
  by_cases hready : c.state = .ready
  · rw [ping_of_ready hready, ping_of_ready (hstate ▸ hready)]
    rcases (exchangePing_alike c d h).cases with ⟨a, c', d', hc, hd, h'⟩ | ⟨e, c', d', hc, hd, h'⟩
    · rw [hc, hd]
      exact ⟨rfl, h'⟩
    · rw [hc, hd]
      exact ⟨rfl, h'.enter .poisoned⟩
  · rw [ping_of_not_ready hready, ping_of_not_ready (hstate ▸ hready)]
    exact ⟨rfl, h⟩

/-- Closing keeps the connections comparable. -/
lemma Resumes.close (h : Resumes former c d) : Resumes former c.close d.close := by
  obtain ⟨_, types, htypes, htypes'⟩ := h
  have hclose := Transport.close_withFormer former d.transport
  have hresumes := @Resumes.mk former d.close types htypes htypes'
  simp only [Connection.close, transport, Input.withFormer] at hclose hresumes ⊢
  rwa [hclose]

end Connection

/-! ## Calls -/

/-- Every call goes alike. -/
lemma Call.run_resumes {c d : Connection} (h : Connection.Resumes former c d) (call : Call) :
    (call.run c).1 = (call.run d).1 ∧ Connection.Resumes former (call.run c).2 (call.run d).2 := by
  cases call with
  | connect dial =>
      have hconnect := Connection.connect_alike dial c d h
      exact ⟨congrArg Reply.connected hconnect.outcome_eq, hconnect.finalState⟩
  | request r =>
      cases r with
      | query text settings =>
          have hquery := Connection.query_alike text settings c d h
          exact ⟨congrArg Reply.result hquery.outcome_eq, hquery.finalState⟩
      | ping =>
          obtain ⟨hanswered, hping⟩ := Connection.ping_resumes h
          exact ⟨congrArg Reply.alive hanswered, hping⟩
  | close => exact ⟨rfl, h.close⟩

namespace Connection

variable {c d : Connection}

/-- The observation with what was sent to peers before all others. -/
def Observation.behind (former : List Bytes) (o : Observation) : Observation :=
  { o with sent := o.sent ++ former }

/-- Comparable connections are told apart by what was sent to the former peers alone. -/
lemma Resumes.observed_eq (h : Resumes former c d) :
    c.observed = d.observed.behind (former.map Peer.received) := by
  obtain ⟨_, types, _, _⟩ := h
  simp only [observed, Observation.behind, transport, Input.withFormer, Transport.withFormer,
    Transport.peers]
  cases d.input.transport.peer <;> simp

/-- So are they after any calls, which have the same replies. -/
lemma Resumes.observe_eq (h : Resumes former c d) (calls : List Call) :
    c.observe calls =
      (d.observe calls).map fun o => (o.1, o.2.behind (former.map Peer.received)) := by
  induction calls generalizing c d with
  | nil => rfl
  | cons call rest ih =>
      obtain ⟨hreply, hnext⟩ := call.run_resumes h
      rw [observe, observe, List.map_cons, hreply, hnext.observed_eq, ih hnext]

/-! ## Time limits -/

/-- The transport has the time limits of the configuration. -/
def Timed (c : Connection) : Prop :=
  c.transport.timeouts = c.config.timeouts

/-- Nothing but the frame counts. -/
lemma Timed.of_frame {e : Connection} (h : d.Timed) (hframe : e.frame = d.frame) : e.Timed := by
  have htimeouts : e.transport.timeouts = d.transport.timeouts :=
    congrArg (fun f => f.input.transport.timeouts) hframe
  have hconfig : e.config = d.config := congrArg (fun f => f.config) hframe
  rw [Timed, htimeouts, hconfig]
  exact h

/-- Parting from a peer leaves the time limits. -/
lemma close_timeouts (t : Transport) : t.close.timeouts = t.timeouts := by
  unfold Transport.close
  split <;> rfl

/-- So does sending. -/
lemma flush_timeouts (o : Output) (t : Transport) : (finalState (o.flush t)).timeouts = t.timeouts := by
  unfold Output.flush
  split
  · rfl
  · unfold Transport.send
    cases t.peer with
    | none => rfl
    | some p =>
        dsimp only
        split <;> rfl

/-- Sending keeps the time limits, in any state. -/
lemma Timed.transmit (h : c.Timed) (data : Bytes) (s : State) :
    (finalState (transmit data { c with state := s })).Timed := by
  rw [finalState_transmit]
  exact (flush_timeouts _ _).trans h

/-- Parting from the peer keeps them. -/
lemma Timed.part (h : c.Timed) (s : State) :
    Timed { c.withTransport c.transport.close with state := s } :=
  (close_timeouts c.transport).trans h

/-- Greetings keep them, also when they fail. -/
lemma Timed.handshakeOr (h : c.Timed) (failed : State) :
    (finalState (handshakeOr failed c)).Timed := by
  have hsent := h.transmit (greeting c.config).encode .handshaking
  unfold Connection.handshakeOr
  cases hc : handshake c with
  | ok a c' =>
      obtain ⟨d, e, hello, htransmit, hframe, rfl⟩ := handshake_eq_ok hc
      rw [htransmit] at hsent
      have hread : e.Timed := hsent.of_frame hframe
      exact hread
  | error e c' => exact (hsent.of_frame (handshake_eq_error hc)).part failed

/-- Connecting keeps them. -/
lemma Timed.connect (h : c.Timed) (dial : HostAddress → Except StreamError Peer) :
    (finalState (connect dial c)).Timed := by
  by_cases hpermitted : c.state = .disconnected ∨ c.state = .closed
  · rw [connect_of_permitted dial hpermitted]
    cases c.config.primaryHost with
    | none => exact h
    | some host =>
        dsimp only
        cases dial host with
        | ok p =>
            have hreaching : (c.reaching p).Timed := h
            exact hreaching.handshakeOr .disconnected
        | error e =>
            have hconnecting : c.connecting.Timed := h
            exact hconnecting.part .disconnected
  · rw [connect_of_not_permitted dial hpermitted]
    exact h

/-- A query keeps them. -/
lemma Timed.query (h : c.Timed) (text : String) (settings : List (String × String)) :
    (finalState (query text settings c)).Timed := by
  have hsent := (h.transmit _ .executing).of_frame
    (exchangeQuery_frame text settings { c with state := .executing })
  by_cases hready : c.state = .ready
  · rw [query_of_ready text settings hready]
    cases hquery : exchangeQuery text settings { c with state := .executing } with
    | error e c' =>
        rw [hquery] at hsent
        exact hsent
    | ok r c' =>
        rw [hquery] at hsent
        dsimp only
        cases r.toExcept <;> exact hsent
  · rw [query_of_not_ready text settings hready]
    exact h

/-- A ping keeps them. -/
lemma Timed.ping (h : c.Timed) : c.ping.2.Timed := by
  have hsent := (h.transmit _ c.state).of_frame (exchangePing_frame c)
  by_cases hready : c.state = .ready
  · rw [ping_of_ready hready]
    cases hping : exchangePing c with
    | error e c' =>
        rw [hping] at hsent
        exact hsent
    | ok a c' =>
        rw [hping] at hsent
        exact hsent
  · rw [ping_of_not_ready hready]
    exact h

/-- A reachable connection has the time limits of its configuration. -/
lemma Reachable.timed (h : c.Reachable) : c.Timed := by
  induction h with
  | new config => rfl
  | openWith config peer =>
      have hopened : (ofTransport config (Transport.attached peer config.timeouts)).Timed := rfl
      exact hopened.handshakeOr .closed
  | connect _ dial ih => exact ih.connect dial
  | query _ text settings ih => exact ih.query text settings
  | ping _ ih => exact ih.ping
  | close _ ih => exact (close_timeouts _).trans ih

/-! ## Connecting again -/

/-- A reachable connection that can connect compares with a new one once both start to connect. -/
lemma Reachable.connecting_resumes (hc : c.Reachable)
    (h : c.state = .disconnected ∨ c.state = .closed) :
    Resumes c.transport.peers c.connecting (Connection.new c.config).connecting := by
  have htimed := hc.timed
  have hsound := hc.types_sound
  cases hc.atRest with
  | inSession hstate => rcases h with h | h <;> simp [h] at hstate
  | outside _ hserver hattached hpending =>
      have hpeer : c.transport.peer = none := by simpa [Transport.isConnected] using hattached
      have hpeers : c.transport.peers = c.transport.parted := by rw [Transport.peers, hpeer]
      have hresumes := @Resumes.mk c.transport.peers (Connection.new c.config).connecting c.types
        hsound (TypeCache.new_sound c.config.typeCacheCapacity)
      have hsame : c.connecting =
          { (Connection.new c.config).connecting with
            input := (Connection.new c.config).connecting.input.withFormer c.transport.peers
            types := c.types } := by
        rw [hpeers]
        unfold Timed transport at htimed
        unfold transport at hpeer
        simp only [connecting, transport, Input.withFormer, Transport.withFormer, Connection.new,
          ofTransport, Transport.detached, Input.clear, Output.clear, hserver, List.nil_append,
          ← htimed, ← hpeer]
      rw [hsame]
      exact hresumes

/-- So it does once both have reached a peer. -/
lemma Reachable.reaching_resumes (hc : c.Reachable)
    (h : c.state = .disconnected ∨ c.state = .closed) (p : Peer) :
    Resumes c.transport.peers (c.reaching p) ((Connection.new c.config).reaching p) :=
  (hc.connecting_resumes h).reaching p

/-- Whatever happened on a connection, once it connects a new connection of the same configuration
connects to the same peer, and from then on there is no difference: the state, the greeting of the server
and everything that is sent are the same, and so are the replies to any calls and what can be told after
each. Only the peers of former sessions still have what was sent to them. -/
theorem reconnect_isolated {c c' : Connection} (hc : c.Reachable)
    {dial : HostAddress → Except StreamError Peer} (h : connect dial c = .ok () c') :
    ∃ d, connect dial (new c.config) = .ok () d ∧ c'.observed = d.observed.behind c.observed.sent ∧
      ∀ calls, c'.observe calls =
        (d.observe calls).map fun o => (o.1, o.2.behind c.observed.sent) := by
  have hpermitted : c.state = .disconnected ∨ c.state = .closed := by
    by_contra hnot
    rw [connect_of_not_permitted dial hnot] at h
    cases h
  have hnew : (new c.config).state = .disconnected ∨ (new c.config).state = .closed := .inl rfl
  rw [connect_of_permitted dial hpermitted] at h
  rw [connect_of_permitted dial hnew, show (new c.config).config = c.config from rfl]
  cases hhost : c.config.primaryHost with
  | none =>
      rw [hhost] at h
      cases h
  | some host =>
      rw [hhost] at h
      dsimp only at h ⊢
      cases hdial : dial host with
      | error e =>
          rw [hdial] at h
          cases h
      | ok p =>
          rw [hdial] at h
          dsimp only at h ⊢
          have hgreet := handshakeOr_alike .disconnected _ _ (hc.reaching_resumes hpermitted p)
          rw [show handshakeOr .disconnected (c.reaching p) = .ok () c' from h] at hgreet
          rcases hgreet.cases with ⟨_, s, d, hs, hd, hresumes⟩ | ⟨_, _, _, hs, _⟩
          · cases hs
            exact ⟨d, hd, hresumes.observed_eq, hresumes.observe_eq⟩
          · cases hs

/-- A session with a query and a ping that meets a byte of another packet, closed with a byte unread. -/
def brokenSession : List Call :=
  [.connect fun _ => .ok { incoming :=
      [[0, 0, 0, 0, 0], [1, 0, 0, 0, 1, 1, 1, 97, 5, 85, 73, 110, 116, 56, 99, 5, 1, 7]] },
    .request (.query "SELECT 1" []), .request .ping, .close]

/-- A peer that greets and answers one ping. -/
def steadyPeer : Peer :=
  { incoming := [[0, 1, 83, 1], [2, 3, 4]] }

/-- After a session that was poisoned and left a type behind, a connection that connects again answers
what a new one does: to two pings, of which the new peer answers one. -/
theorem reconnect_isolated_broken :
    ((new {}).after (brokenSession.take 3)).state = .poisoned ∧
      ((new {}).after brokenSession).types.length = 1 ∧
      ∃ c' d, connect (fun _ => .ok steadyPeer) ((new {}).after brokenSession) = .ok () c' ∧
        connect (fun _ => .ok steadyPeer) (new {}) = .ok () d ∧
        (c'.observe [.request .ping, .request .ping]).map Prod.fst =
          (d.observe [.request .ping, .request .ping]).map Prod.fst := by
  have hpoisoned : ((new {}).after (brokenSession.take 3)).state = .poisoned := by decide +kernel
  have htypes : ((new {}).after brokenSession).types.length = 1 := by decide +kernel
  have hconfig : ((new {}).after brokenSession).config = {} := by decide +kernel
  obtain ⟨c', hconnect⟩ : ∃ c', connect (fun _ => .ok steadyPeer) ((new {}).after brokenSession) =
      .ok () c' := by
    obtain ⟨_, hok⟩ := eq_ok_of_isOk
      (r := connect (fun _ => .ok steadyPeer) ((new {}).after brokenSession)) (by decide +kernel)
    exact ⟨_, hok⟩
  obtain ⟨d, hd, -, hobserve⟩ :=
    reconnect_isolated ((Reachable.new {}).after brokenSession) hconnect
  rw [hconfig] at hd
  refine ⟨hpoisoned, htypes, c', d, hconnect, hd, ?_⟩
  rw [hobserve, List.map_map]
  rfl

end Connection

end ColumnWire.Session
