import Mathlib.Tactic.Common
import ColumnWire.Proofs.Packet.ServerRoundTrip
import ColumnWire.Proofs.Session.Failure
import ColumnWire.Proofs.Session.Isolation

/-!
# How greetings end

A client that opens a session sends its greeting and reads one answer. What comes of it follows from the
bytes of the answer and from what comes behind them (`Answers`): a greeting of the server makes the
connection ready, with all behind it unread; an exception is raised, also one that the end of the stream
cuts short; any other code is unexpected; and a number, a greeting or an exception that cannot be read is
an error of the stream.

Reading the answer has these outcomes on every connection (`readGreeting_answers`). A session is opened in
two ways (`Entry`), both of which exchange greetings with a peer that nothing was sent to, and part from
it when they fail (`Abandoned`). Main statement: `Entry.greeting_outcome`.
-/

namespace ColumnWire.Stream

open ColumnWire.Wire

/-- Why a stream does not give what a decoder takes: what comes behind its last byte if bytes are missing,
and else that the decoder refuses the bytes. -/
def refusal (stop : Option StreamError) : WireError → StreamError
  | .incomplete k => stop.getD (.unexpectedEnd k)
  | e => .wire e

/-- A read fails where the decoder does. -/
lemma Input.Refines.of_error {α : Type} {r : Reader α} {d : Decoder α} (h : Refines r d) {s : Input}
    {e : WireError} {left : Bytes} (he : d s.unread = .error e left) :
    ∃ t, r s = .error (refusal s.transport.stop e) t := by
  cases e with
  | incomplete k => exact h.of_short he
  | _ => exact h.of_refused rfl he

/-- Bytes that are missing at the end of a stream are the only reason that is an end. -/
lemma isEnd_refusal {t : Transport} {e : WireError} (h : e.isIncomplete = true → t.stop ≠ none) :
    (refusal t.stop e).isEnd = false := by
  cases e with
  | incomplete k =>
      cases hstop : t.stop with
      | none => exact absurd hstop (h rfl)
      | some f => exact Transport.isEnd_of_stop hstop
  | _ => rfl

end ColumnWire.Stream

namespace ColumnWire.Session.Connection

open ColumnWire.Wire ColumnWire.Packet ColumnWire.Stream

variable {c d : Connection} {n : UInt64} {u rest : Bytes}

/-! ## The answer to a greeting -/

/-- What becomes of the answer `b` to a greeting, with `stop` behind it: with a greeting of the server and
the bytes behind that it is `ready`, with an error it has `failed`. -/
structure Answers (stop : Option StreamError) (b : Bytes) (ready : ServerHello → Bytes → Prop)
    (failed : ClientError → Prop) : Prop where
  /-- A greeting, and anything behind it. -/
  hello : ∀ {u w x h}, Varint.decoder.Spells u ServerCode.hello.number →
    ServerHello.decoder.Spells w h → b = u ++ (w ++ x) → ready h x
  /-- An exception, and anything behind it. -/
  exception : ∀ {u w x e}, Varint.decoder.Spells u ServerCode.exception.number →
    ServerException.decoder.Spells w e → b = u ++ (w ++ x) → failed (.remote (.ofException e))
  /-- An exception that the end of the stream cuts short. -/
  cut : ∀ {u v k left}, stop = none → Varint.decoder.Spells u ServerCode.exception.number →
    ServerException.decoder v = .error (.incomplete k) left → b = u ++ v →
      failed (.remote .unknown)
  /-- Any other code, and anything behind it. -/
  unexpected : ∀ {u x n}, Varint.decoder.Spells u n → n ≠ ServerCode.hello.number →
    n ≠ ServerCode.exception.number → b = u ++ x → failed (.unexpectedPacket .handshake n)
  /-- No code. -/
  noCode : ∀ {e left}, Varint.decoder b = .error e left → failed (.stream (refusal stop e))
  /-- The code of a greeting, and no greeting. -/
  noHello : ∀ {u v e left}, Varint.decoder.Spells u ServerCode.hello.number →
    ServerHello.decoder v = .error e left → b = u ++ v → failed (.stream (refusal stop e))
  /-- The code of an exception, and none, for another reason than the end of the stream. -/
  noException : ∀ {u v e left}, (e.isIncomplete = true → stop ≠ none) →
    Varint.decoder.Spells u ServerCode.exception.number →
      ServerException.decoder v = .error e left → b = u ++ v → failed (.stream (refusal stop e))

/-- What is known of the outcomes is known of the answer. -/
lemma Answers.imp {stop : Option StreamError} {b : Bytes} {ready ready' : ServerHello → Bytes → Prop}
    {failed failed' : ClientError → Prop} (h : Answers stop b ready failed)
    (hready : ∀ h x, ready h x → ready' h x) (hfailed : ∀ e, failed e → failed' e) :
    Answers stop b ready' failed' where
  hello hcode hbody hb := hready _ _ (h.hello hcode hbody hb)
  exception hcode hbody hb := hfailed _ (h.exception hcode hbody hb)
  cut hstop hcode hbody hb := hfailed _ (h.cut hstop hcode hbody hb)
  unexpected hcode hhello hexception hb := hfailed _ (h.unexpected hcode hhello hexception hb)
  noCode hcode := hfailed _ (h.noCode hcode)
  noHello hcode hbody hb := hfailed _ (h.noHello hcode hbody hb)
  noException hstop hcode hbody hb := hfailed _ (h.noException hstop hcode hbody hb)

/-- What the decoder takes of the bytes ahead is read. -/
lemma fromInput_taken {α : Type} {r : Reader α} {d : Decoder α} (h : Input.Refines r d) {v : α}
    (hv : d c.input.unread = .ok v rest) :
    ∃ c', fromInput r c = .ok v c' ∧ c'.input.unread = rest ∧ c'.transport.stop = c.transport.stop := by
  obtain ⟨t, ht, hsettled⟩ := h.of_taken hv
  refine ⟨{ c with input := t }, by rw [fromInput, ht], ?_, ?_⟩
  · rw [← Input.settled_unread, hsettled, Input.unread_with_buffer]
  · exact Transport.stop_of_drained (congrArg Input.transport hsettled)

/-- What the decoder refuses of the bytes ahead is an error of the stream. -/
lemma fromInput_refused {α : Type} {r : Reader α} {d : Decoder α} (h : Input.Refines r d)
    {e : WireError} {left : Bytes} (he : d c.input.unread = .error e left) :
    ∃ c', fromInput r c = .error (.stream (refusal c.transport.stop e)) c' := by
  obtain ⟨t, ht⟩ := h.of_error he
  exact ⟨{ c with input := t }, by rw [fromInput, ht]; rfl⟩

/-- What is done with the code of an answer. -/
def onGreeting (raw : UInt64) : Exchange ServerHello :=
  match ServerCode.ofNumber? raw with
  | .ok .hello => fromInput (Input.readFrame ServerHello.decoder)
  | .ok .exception => do
    let e ← fromInput readException
    throw (.remote e)
  | _ => throw (.unexpectedPacket .handshake raw)

/-- A code other than those of a greeting and an exception is unexpected. -/
lemma onGreeting_of_ne (hhello : n ≠ ServerCode.hello.number)
    (hexception : n ≠ ServerCode.exception.number) :
    onGreeting n = throw (.unexpectedPacket .handshake n) := by
  unfold onGreeting
  cases hn : ServerCode.ofNumber? n with
  | error e => rfl
  | ok code =>
      have hnumber := ServerCode.number_of_ofNumber? hn
      cases code with
      | hello => exact absurd hnumber hhello
      | exception => exact absurd hnumber hexception
      | _ => rfl

/-- The code that lies ahead is taken. -/
lemma readGreeting_code (hcode : Varint.decoder.Spells u n) (hahead : c.input.unread = u ++ rest) :
    ∃ c', readGreeting c = onGreeting n c' ∧ c'.input.unread = rest ∧
      c'.transport.stop = c.transport.stop := by
  have htaken : Varint.decoder c.input.unread = .ok n rest := by rw [hahead, hcode rest]
  obtain ⟨c', hc', hrest, hstop⟩ := fromInput_taken Input.readVarint_refines htaken
  exact ⟨c', bind_ok hc', hrest, hstop⟩

/-- Reading the answer to a greeting has the outcomes of the bytes ahead. -/
lemma readGreeting_answers (c : Connection) :
    Answers c.transport.stop c.input.unread
      (fun h x => h.visible = h ∧ ∃ c', readGreeting c = .ok h c' ∧ c'.input.unread = x)
      (fun e => ∃ c', readGreeting c = .error e c') where
  hello {u w x h} hcode hbody hb := by
    obtain ⟨c₁, hc₁, hrest, -⟩ := readGreeting_code hcode hb
    have htaken : ServerHello.decoder c₁.input.unread = .ok h x := by rw [hrest, hbody x]
    obtain ⟨c₂, hc₂, hx, -⟩ := fromInput_taken
      (Input.readFrame_refines ServerHello.decoder_prefixStable) htaken
    exact ⟨ServerHello.decoder_visible _ _ _ htaken, c₂, hc₁.trans hc₂, hx⟩
  exception {u w x e} hcode hbody hb := by
    obtain ⟨c₁, hc₁, hrest, -⟩ := readGreeting_code hcode hb
    have htaken : ServerException.decoder c₁.input.unread = .ok e x := by rw [hrest, hbody x]
    obtain ⟨t, ht, -⟩ :=
      (Input.readFrame_refines ServerException.decoder_prefixStable).of_taken htaken
    have hread : fromInput readException c₁ = .ok (.ofException e) { c₁ with input := t } := by
      rw [fromInput, readException, ht]
    exact ⟨_, hc₁.trans (bind_ok hread)⟩
  cut {u v k left} hstop hcode hbody hb := by
    obtain ⟨c₁, hc₁, hrest, hstop₁⟩ := readGreeting_code hcode hb
    have hshort : ServerException.decoder c₁.input.unread = .error (.incomplete k) left := by
      rw [hrest, hbody]
    obtain ⟨t, ht, -⟩ := readException_of_cut (hstop₁.trans hstop) hshort
    have hread : fromInput readException c₁ = .ok .unknown { c₁ with input := t } := by
      rw [fromInput, ht]
    exact ⟨_, hc₁.trans (bind_ok hread)⟩
  unexpected hcode hhello hexception hb := by
    obtain ⟨c₁, hc₁, -, -⟩ := readGreeting_code hcode hb
    rw [onGreeting_of_ne hhello hexception] at hc₁
    exact ⟨c₁, hc₁⟩
  noCode hcode := by
    obtain ⟨c₁, hc₁⟩ := fromInput_refused Input.readVarint_refines hcode
    exact ⟨c₁, bind_error hc₁⟩
  noHello {u v e left} hcode hbody hb := by
    obtain ⟨c₁, hc₁, hrest, hstop₁⟩ := readGreeting_code hcode hb
    have hrefused : ServerHello.decoder c₁.input.unread = .error e left := by rw [hrest, hbody]
    obtain ⟨c₂, hc₂⟩ := fromInput_refused
      (Input.readFrame_refines ServerHello.decoder_prefixStable) hrefused
    rw [hstop₁] at hc₂
    exact ⟨c₂, hc₁.trans hc₂⟩
  noException {u v e left} hstop hcode hbody hb := by
    obtain ⟨c₁, hc₁, hrest, hstop₁⟩ := readGreeting_code hcode hb
    have hrefused : ServerException.decoder c₁.input.unread = .error e left := by rw [hrest, hbody]
    obtain ⟨t, ht⟩ :=
      (Input.readFrame_refines ServerException.decoder_prefixStable).of_error hrefused
    rw [show c₁.input.transport.stop = c.transport.stop from hstop₁] at ht
    have hread : fromInput readException c₁ =
        .error (.stream (refusal c.transport.stop e)) { c₁ with input := t } := by
      rw [fromInput, readException_of_error ht (isEnd_refusal hstop)]
    exact ⟨_, hc₁.trans (bind_error hread)⟩

/-! ## Sending the greeting -/

/-- A connection that has a peer and no bytes of it, and nothing to send. -/
structure Fresh (p : Peer) (c : Connection) : Prop where
  /-- The peer. -/
  peer : c.transport.peer = some p
  /-- The time limits are those of the configuration. -/
  timed : c.Timed
  /-- No byte has been received. -/
  received : c.input.buffer = []
  /-- Nothing is pending. -/
  pending : c.output = {}

/-- The connection when its peer was offered bytes. -/
def offered (c : Connection) (p : Peer) (data : Bytes) : Connection :=
  { c.withTransport { c.transport with peer := some (p.accept data).2 } with output := {} }

/-- Bytes are sent if the peer takes all of them. -/
lemma transmit_eq {p : Peer} (hpeer : c.transport.peer = some p) (hpending : c.output = {})
    {data : Bytes} (hdata : data ≠ []) :
    transmit data c =
      if (p.accept data).1 then .ok () (c.offered p data)
      else .error (.stream (c.transport.troubled .send p.refusal)) (c.offered p data) := by
  have hwrite : c.output.write data = { pending := data } := by
    rw [hpending]
    rfl
  have hflush : Output.flush { pending := data } c.transport = Transport.send data c.transport := by
    unfold Output.flush Output.isEmpty
    rw [if_neg (by simpa using hdata)]
  unfold transmit
  rw [hwrite, hflush]
  unfold Transport.send
  rw [hpeer]
  dsimp only
  cases haccept : p.accept data with
  | mk taken p' => cases taken <;> simp [offered, haccept]

/-! ## Opening a session -/

/-- Two ways to open a session with a peer, each with the configuration, the state that a failure leaves
and the result. -/
inductive Entry (p : Peer) : Config → State → EStateM.Result ClientError Connection Unit → Prop where
  /-- Over a stream to the peer. -/
  | openWith (config : Config) : Entry p config .closed (openWith config p)
  /-- By connecting to the first host, where the peer is. -/
  | connect {c : Connection} {dial : HostAddress → Except StreamError Peer} {host : HostAddress}
      (hc : c.Reachable) (hstate : c.state = .disconnected ∨ c.state = .closed)
      (hhost : c.config.primaryHost = some host) (hdial : dial host = .ok p) :
      Entry p c.config .disconnected (connect dial c)

variable {p q : Peer} {config : Config} {failed : State}
  {r : EStateM.Result ClientError Connection Unit}

/-- Both ways exchange greetings on a fresh connection. -/
lemma Entry.fresh (h : Entry p config failed r) :
    ∃ c, Fresh p c ∧ c.config = config ∧ r = handshakeOr failed c := by
  cases h with
  | openWith =>
      exact ⟨ofTransport config (Transport.attached p config.timeouts), ⟨rfl, rfl, rfl, rfl⟩, rfl, rfl⟩
  | @connect c dial host hc hstate hhost hdial =>
      refine ⟨c.reaching p, ⟨rfl, hc.timed, rfl, rfl⟩, rfl, ?_⟩
      rw [connect_of_permitted dial hstate, hhost]
      dsimp only
      rw [hdial]
      rfl

/-- Greetings on a fresh connection begin with an offer of the greeting to the peer. -/
lemma Fresh.transmit_eq (h : Fresh p c) :
    transmit (greeting c.config).encode { c with state := .handshaking } =
      if (p.accept (greeting c.config).encode).1 then
        .ok () (offered { c with state := .handshaking } p (greeting c.config).encode)
      else
        .error (.stream (c.transport.troubled .send p.refusal))
          (offered { c with state := .handshaking } p (greeting c.config).encode) :=
  Connection.transmit_eq (c := { c with state := .handshaking }) h.peer h.pending
    (greeting_ne_nil c.config)

/-- Greetings on a fresh connection whose peer takes the greeting have the outcomes of the answer. -/
lemma Fresh.answers (h : Fresh p c) (htaken : (p.accept (greeting c.config).encode).1 = true) :
    Answers (Transport.attached (p.accept (greeting c.config).encode).2 c.config.timeouts).stop
      (p.accept (greeting c.config).encode).2.outstanding
      (fun hello x => hello.visible = hello ∧
        ∃ d, handshake c = .ok () d ∧ d.state = .ready ∧ d.server = some hello ∧ d.input.unread = x)
      (fun e => ∃ d, handshake c = .error e d) := by
  have hsent := h.transmit_eq
  rw [if_pos htaken] at hsent
  have hanswers :=
    readGreeting_answers (offered { c with state := .handshaking } p (greeting c.config).encode)
  have hunread : (offered { c with state := .handshaking } p (greeting c.config).encode).input.unread =
      (p.accept (greeting c.config).encode).2.outstanding := by
    change c.input.buffer ++ _ = _
    rw [h.received]
    rfl
  have hstop : (offered { c with state := .handshaking } p (greeting c.config).encode).transport.stop =
      (Transport.attached (p.accept (greeting c.config).encode).2 c.config.timeouts).stop := by
    rw [← h.timed]
    rfl
  rw [hunread, hstop] at hanswers
  refine hanswers.imp ?_ ?_
  · rintro hello x ⟨hvisible, d, hd, hx⟩
    refine ⟨hvisible, { d with server := some hello, state := .ready }, ?_, rfl, rfl, hx⟩
    rw [handshake_eq, bind_ok hsent, bind_ok hd]
    rfl
  · rintro e ⟨d, hd⟩
    refine ⟨d, ?_⟩
    rw [handshake_eq, bind_ok hsent, bind_error hd]

end ColumnWire.Session.Connection
