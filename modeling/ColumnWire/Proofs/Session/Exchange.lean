import Mathlib.Tactic.Common
import ColumnWire.Proofs.Session.Receiving
import ColumnWire.Session.Connection

/-!
# What exchanges do to a connection

An exchange sends once and then reads. Sending changes the transport and leaves nothing pending
(`finalState_transmit`, `sentFrom_transmit`); reading changes the bytes ahead and the known types and
nothing else of the connection (`Connection.frame`, `fromInput_keeps`, `fromServer_keeps`). So the frame of
a connection after an exchange is the one that sending left, with the state and the greeting that the
exchange sets:
`handshake_eq_ok`, `handshake_eq_error`, `exchangePing_frame` and `exchangeQuery_frame`.
-/

namespace ColumnWire.Session

open ColumnWire.Wire ColumnWire.Packet ColumnWire.Stream

namespace Connection

/-! ## Steps -/

/-- Reading changes the input alone. -/
@[simp] lemma finalState_fromInput {α : Type} (r : Reader α) (c : Connection) :
    finalState (fromInput r c) = { c with input := finalState (r c.input) } := by
  unfold fromInput
  cases r c.input <;> rfl

/-- Receiving changes the input and the types alone. -/
@[simp] lemma finalState_fromServer {α : Type} (m : Receive α) (c : Connection) :
    finalState (fromServer m c) =
      { c with
        input := (finalState (m ⟨c.input, c.types⟩)).input
        types := (finalState (m ⟨c.input, c.types⟩)).types } := by
  unfold fromServer
  cases m ⟨c.input, c.types⟩ <;> rfl

/-- Sending changes the transport and leaves nothing pending. -/
@[simp] lemma finalState_transmit (data : Bytes) (c : Connection) :
    finalState (transmit data c) =
      { c.withTransport (finalState ((c.output.write data).flush c.transport)) with output := {} } := by
  unfold transmit
  cases (c.output.write data).flush c.transport <;> rfl

/-- Sending does not connect or disconnect. -/
lemma isConnected_send (data : Bytes) (t : Transport) :
    (finalState (Transport.send data t)).isConnected = t.isConnected := by
  unfold Transport.send
  cases hpeer : t.peer with
  | none => simp [finalState]
  | some p =>
      dsimp only
      split <;> simp [finalState, Transport.isConnected, hpeer]

/-- Nor does sending what is pending. -/
lemma isConnected_flush (o : Output) (t : Transport) :
    (finalState (o.flush t)).isConnected = t.isConnected := by
  unfold Output.flush
  split
  · rfl
  · exact isConnected_send o.pending t

/-! ## Frames -/

/-- What reading leaves of a connection: all but the bytes ahead and the known types. -/
def frame (c : Connection) : Connection :=
  { c with input := { transport := c.transport.drained }, types := TypeCache.new 0 }

variable {c c' d e f : Connection}

/-- Reading keeps the frame. -/
lemma fromInput_keeps {α : Type} {r : Reader α}
    (h : ∀ drained, Preserves (fun s : Input => s.transport.drained = drained) r) :
    Preserves (fun c => c.frame = f) (fromInput r) := by
  rintro c rfl
  rw [finalState_fromInput]
  simp only [frame, transport, h _ c.input rfl]

/-- Receiving keeps the frame. -/
lemma fromServer_keeps {α : Type} {m : Receive α}
    (h : ∀ drained, Preserves (fun s : Receiver => s.input.transport.drained = drained) m) :
    Preserves (fun c => c.frame = f) (fromServer m) := by
  rintro c rfl
  rw [finalState_fromServer]
  simp only [frame, transport, h _ ⟨c.input, c.types⟩ rfl]

/-- An exchange that sends and then only reads leaves the frame that sending left. -/
lemma frame_bind {α β : Type} {m : Exchange α} {k : α → Exchange β}
    (hk : ∀ a f, Preserves (fun c => c.frame = f) (k a)) (c : Connection) :
    (finalState ((m >>= k) c)).frame = (finalState (m c)).frame := by
  cases h : m c with
  | ok a d =>
      rw [bind_ok h]
      exact hk a d.frame d rfl
  | error e d =>
      rw [bind_error h]
      rfl

/-! ## What sending keeps -/

/-- The connection `d` after something was sent from `c` and an answer was read. -/
structure SentFrom (c d : Connection) : Prop where
  /-- The configuration stays. -/
  config : d.config = c.config
  /-- The greeting of the server stays. -/
  server : d.server = c.server
  /-- The transport stays attached. -/
  attached : d.transport.isConnected = c.transport.isConnected
  /-- Nothing is pending. -/
  pending : d.output = {}

/-- Whether a transport is attached does not change when it is drained. -/
lemma isConnected_drained (t : Transport) : t.drained.isConnected = t.isConnected := by
  simp [Transport.drained, Transport.isConnected]

/-- Nothing but the frame counts. -/
lemma SentFrom.of_frame (h : SentFrom c d) (hframe : e.frame = d.frame) : SentFrom c e where
  config := by
    have hconfig : e.config = d.config := congrArg (fun f => f.config) hframe
    rw [hconfig, h.config]
  server := by
    have hserver : e.server = d.server := congrArg (fun f => f.server) hframe
    rw [hserver, h.server]
  attached := by
    have hdrained : e.transport.drained = d.transport.drained :=
      congrArg (fun f => f.input.transport) hframe
    rw [← isConnected_drained, hdrained, isConnected_drained, h.attached]
  pending := by
    have houtput : e.output = d.output := congrArg (fun f => f.output) hframe
    rw [houtput, h.pending]

/-- Sending, in any state and whether it succeeds or fails. -/
lemma sentFrom_transmit (data : Bytes) (c : Connection) (s : State) :
    SentFrom c (finalState (transmit data { c with state := s })) := by
  rw [finalState_transmit]
  exact ⟨rfl, rfl, isConnected_flush _ _, rfl⟩

/-! ## Exchanges -/

/-- Reads the answer to a greeting. -/
def readGreeting : Exchange ServerHello := do
  let raw ← fromInput Input.readVarint
  match ServerCode.ofNumber? raw with
  | .ok .hello => fromInput (Input.readFrame ServerHello.decoder)
  | .ok .exception => do
    let e ← fromInput readException
    throw (.remote e)
  | _ => throw (.unexpectedPacket .handshake raw)

/-- Reading the answer to a greeting keeps the frame. -/
lemma readGreeting_keeps : Preserves (fun c => c.frame = f) readGreeting := by
  have hstable := ServerException.decoder_prefixStable
  refine (fromInput_keeps fun _ => ReadOp.varint.preserves_drained).bind fun raw => ?_
  split
  · exact fromInput_keeps fun _ => (ReadOp.frame .serverHello).preserves_drained
  · refine (fromInput_keeps fun _ s hs => ?_).bind fun e => Preserves.throw _
    rw [finalState_readException]
    exact Input.readFrame_preserves_drained hstable s hs
  · exact Preserves.throw _

/-- Greetings are sent, the answer is read, and what it says is kept. -/
lemma handshake_eq (c : Connection) :
    handshake c =
      (transmit (greeting c.config).encode >>= fun _ => readGreeting >>= fun hello =>
        modify fun c => { c with server := some hello, state := .ready })
        { c with state := .handshaking } := by
  have hanswer : (readGreeting >>= fun hello =>
      modify fun c => { c with server := some hello, state := .ready }) =
        fromInput Input.readVarint >>= fun raw =>
          match ServerCode.ofNumber? raw with
          | .ok .hello => do
            let hello ← fromInput (Input.readFrame ServerHello.decoder)
            modify fun c => { c with server := some hello, state := .ready }
          | .ok .exception => do
            let e ← fromInput readException
            throw (.remote e)
          | _ => throw (.unexpectedPacket .handshake raw) := by
    rw [readGreeting, bind_assoc]
    congr 1
    funext raw
    split
    · rfl
    · rw [bind_assoc]
      rfl
    · rfl
  rw [hanswer]
  rfl

/-- Greetings that succeed were sent and answered; the connection has the greeting of the server and is
ready. -/
lemma handshake_eq_ok (h : handshake c = .ok () c') :
    ∃ (d e : Connection) (hello : ServerHello),
      transmit (greeting c.config).encode { c with state := .handshaking } = .ok () d ∧
      e.frame = d.frame ∧ c' = { e with server := some hello, state := .ready } := by
  rw [handshake_eq] at h
  obtain ⟨_, d, hsent, h⟩ := bind_eq_ok.1 h
  obtain ⟨hello, e, hread, h⟩ := bind_eq_ok.1 h
  cases h
  have hframe := readGreeting_keeps (f := d.frame) d rfl
  rw [hread] at hframe
  exact ⟨d, e, hello, hsent, hframe, rfl⟩

/-- Greetings that fail leave the frame that sending left. -/
lemma handshake_eq_error {e : ClientError} (h : handshake c = .error e c') :
    c'.frame =
      (finalState (transmit (greeting c.config).encode { c with state := .handshaking })).frame := by
  rw [handshake_eq] at h
  rcases bind_eq_error.1 h with h | ⟨_, d, hsent, h⟩
  · rw [h]
    rfl
  rw [hsent]
  rcases bind_eq_error.1 h with h | ⟨hello, d', _, h⟩
  · have hframe := readGreeting_keeps (f := d.frame) d rfl
    rw [h] at hframe
    exact hframe
  · cases h

/-- A ping leaves the frame that sending left. -/
lemma exchangePing_frame (c : Connection) :
    (finalState (exchangePing c)).frame = (finalState (transmit ClientCode.ping.encode c)).frame := by
  refine frame_bind (fun _ f => ?_) c
  refine (fromInput_keeps fun _ => ReadOp.varint.preserves_drained).bind fun raw => ?_
  split
  · exact Preserves.throw _
  · exact Preserves.pure ()

/-- An exchange for a query leaves the frame that sending left. -/
lemma exchangeQuery_frame (text : String) (settings : List (String × String)) (c : Connection) :
    (finalState (exchangeQuery text settings c)).frame =
      (finalState (transmit ((c.queryPacket text settings).encode ++ encodeEmptyBlock) c)).frame :=
  frame_bind (fun _ _ => fromServer_keeps fun _ => receiveResult_preserves_drained) c

/-- An exception of the server is what an exchange for a query answers, and not an error of it. -/
lemma exchangeQuery_raises (text : String) (settings : List (String × String)) :
    Raises (fun e => e.isRemote = false) (exchangeQuery text settings) := by
  have htransmit (data : Bytes) : Raises (fun e => e.isRemote = false) (transmit data) := by
    intro c e d h
    unfold transmit at h
    split at h <;> cases h
    rfl
  have hreceive : Raises (fun e => e.isRemote = false) (fromServer receiveResult) := by
    intro c e d h
    unfold fromServer at h
    split at h
    · cases h
    · next hr =>
        cases h
        exact receiveResult_raises _ _ _ hr
  intro c e d h
  exact (htransmit _).bind (fun _ => hreceive) c e d h

end Connection

end ColumnWire.Session
