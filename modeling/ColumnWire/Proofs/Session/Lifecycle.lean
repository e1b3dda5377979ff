import Mathlib.Tactic.Common
import ColumnWire.Proofs.Session.Call
import ColumnWire.Proofs.Session.Exchange

/-!
# The life of a connection

Between two calls a connection is at rest (`AtRest`): it is in a session, ready or poisoned, with the
greeting of the server and an attached transport, or it is outside of one, disconnected or closed, with
neither; and nothing is pending. A call that is not permitted in the state of the connection is refused
and changes nothing; the state after a permitted one follows from its reply (`Obeys`).

An exchange keeps a session a session, also when it fails half way (`SentFrom.of_frame`), and so each
operation leads from rest to rest. Main statement: `Reachable.lifecycle`.
-/

namespace ColumnWire.Session

open ColumnWire.Wire ColumnWire.Packet ColumnWire.Stream

/-! ## Between two calls -/

/-- The states that a permitted call with this reply can lead to. -/
def Reply.LeadsTo : Reply → State → Prop
  | .connected (.ok _), s => s = .ready
  | .connected (.error _), s => s = .disconnected ∨ s = .closed
  | .result (.ok _), s => s = .ready
  | .result (.error e), s => s = if e.isRemote then .ready else .poisoned
  | .alive answered, s => s = if answered then .ready else .poisoned
  | .closed, s => s = .closed

namespace Connection

/-- A connection between two calls. -/
inductive AtRest (c : Connection) : Prop where
  /-- In a session. -/
  | inSession (hstate : c.state = .ready ∨ c.state = .poisoned) (hserver : c.server.isSome = true)
      (hattached : c.transport.isConnected = true) (hpending : c.output = {}) : AtRest c
  /-- Outside of a session. -/
  | outside (hstate : c.state = .disconnected ∨ c.state = .closed) (hserver : c.server = none)
      (hattached : c.transport.isConnected = false) (hpending : c.output = {}) : AtRest c

/-- What a call does to a connection at rest. -/
structure Obeys (c : Connection) (call : Call) (reply : Reply) (c' : Connection) : Prop where
  /-- The connection is at rest again. -/
  rest : AtRest c'
  /-- A call that is not permitted is refused and changes nothing. -/
  refused : ¬ call.Permitted c.state → reply = call.refusal c.state ∧ c' = c
  /-- The state after a permitted call. -/
  permitted : call.Permitted c.state → reply.LeadsTo c'.state
  /-- Nothing but closing ends being poisoned. -/
  poisoned : c.state = .poisoned → call ≠ .close → c'.state = .poisoned
  /-- Closing empties the buffers, and closing again changes nothing. -/
  closed : call = .close → c'.input.buffer = [] ∧ c'.output = {} ∧ c'.close = c'

/-! ## Exchanges -/

variable {c d e : Connection}

/-- An exchange in a session leads to rest in the session. -/
lemma SentFrom.atRest (h : SentFrom c d) (hrest : AtRest c) (hready : c.state = .ready) {s : State}
    (hs : s = .ready ∨ s = .poisoned) : AtRest { d with state := s } := by
  cases hrest with
  | inSession _ hserver hattached _ =>
      refine .inSession hs ?_ (h.attached.trans hattached) h.pending
      rw [← hserver, ← h.server]
  | outside hstate => simp [hready] at hstate

/-! ## Operations -/

/-- Without a transport, a connection that has nothing pending and knows no server is at rest. -/
lemma atRest_of_closed {s : State} (hs : s = .disconnected ∨ s = .closed) (hserver : d.server = none)
    (hpending : d.output = {}) :
    AtRest { d.withTransport d.transport.close with state := s } :=
  .outside hs hserver (isConnected_close d.transport) hpending

/-- Greetings over an attached transport lead to rest. -/
lemma handshakeOr_atRest {failed : State} (hfailed : failed = .disconnected ∨ failed = .closed)
    (hserver : c.server = none) (hattached : c.transport.isConnected = true) :
    AtRest (finalState (handshakeOr failed c)) ∧
      (Reply.connected (outcome (handshakeOr failed c))).LeadsTo
        (finalState (handshakeOr failed c)).state := by
  have hsent := sentFrom_transmit (greeting c.config).encode c .handshaking
  unfold handshakeOr
  cases h : handshake c with
  | ok a c' =>
      obtain ⟨d, e, hello, htransmit, hframe, rfl⟩ := handshake_eq_ok h
      rw [htransmit] at hsent
      have he := hsent.of_frame hframe
      exact ⟨.inSession (.inl rfl) rfl (he.attached.trans hattached) he.pending, rfl⟩
  | error e c' =>
      have hc' := hsent.of_frame (handshake_eq_error h)
      exact ⟨atRest_of_closed hfailed (hc'.server.trans hserver) hc'.pending, hfailed⟩

/-- A query on a connection that is ready leads to rest. -/
lemma query_atRest (hrest : AtRest c) (hready : c.state = .ready) (text : String)
    (settings : List (String × String)) :
    AtRest (finalState (query text settings c)) ∧
      (Reply.result (outcome (query text settings c))).LeadsTo
        (finalState (query text settings c)).state := by
  have hsent := (sentFrom_transmit _ c .executing).of_frame
    (exchangeQuery_frame text settings { c with state := .executing })
  rw [query_of_ready text settings hready]
  cases h : exchangeQuery text settings { c with state := .executing } with
  | error e d =>
      rw [h] at hsent
      have he := exchangeQuery_raises text settings _ e d h
      refine ⟨hsent.atRest hrest hready (.inr rfl), ?_⟩
      simp [outcome, Reply.LeadsTo, finalState, he]
  | ok r d =>
      rw [h] at hsent
      have hrest' := hsent.atRest hrest hready (.inl rfl)
      dsimp only
      unfold QueryResult.toExcept
      cases r.exception with
      | none => exact ⟨hrest', rfl⟩
      | some e => exact ⟨hrest', rfl⟩

/-- A ping on a connection that is ready leads to rest. -/
lemma ping_atRest (hrest : AtRest c) (hready : c.state = .ready) :
    AtRest (ping c).2 ∧ (Reply.alive (ping c).1).LeadsTo (ping c).2.state := by
  have hframe := exchangePing_frame c
  have hsent := (sentFrom_transmit _ c c.state).of_frame hframe
  rw [ping_of_ready hready]
  cases h : exchangePing c with
  | error e d =>
      rw [h] at hsent
      exact ⟨hsent.atRest hrest hready (.inr rfl), rfl⟩
  | ok a d =>
      rw [h] at hsent hframe
      have hstate : d.state = .ready := by
        rw [finalState_transmit] at hframe
        exact (congrArg (fun f => f.state) hframe).trans hready
      have hrest' := hsent.atRest hrest hready (.inl hstate)
      exact ⟨hrest', hstate⟩

/-- Connecting in a state in which it is permitted leads to rest. -/
lemma connect_atRest (hrest : AtRest c) (dial : HostAddress → Except StreamError Peer)
    (hpermitted : c.state = .disconnected ∨ c.state = .closed) :
    AtRest (finalState (connect dial c)) ∧
      (Reply.connected (outcome (connect dial c))).LeadsTo (finalState (connect dial c)).state := by
  have hserver : c.server = none := by
    cases hrest with
    | inSession hstate => rcases hpermitted with h | h <;> simp [h] at hstate
    | outside _ hserver => exact hserver
  rw [connect_of_permitted dial hpermitted]
  cases c.config.primaryHost with
  | none => exact ⟨hrest, hpermitted⟩
  | some host =>
      dsimp only
      cases dial host with
      | ok peer => exact handshakeOr_atRest (.inl rfl) hserver rfl
      | error e => exact ⟨atRest_of_closed (.inl rfl) hserver rfl, .inl rfl⟩

/-- Closing leads to rest, and closing again changes nothing. -/
lemma close_atRest (c : Connection) : AtRest c.close ∧ c.close.close = c.close := by
  have hdetached : c.close.transport.peer = none := close_peer c.transport
  constructor
  · exact .outside (.inr rfl) rfl (isConnected_close c.transport) rfl
  · have honce : c.close.transport.close = c.close.transport := by
      rw [Transport.close, hdetached]
    rw [close, honce]
    rfl

/-- A refused call leaves a connection at rest as it is. -/
lemma Obeys.of_refused {call : Call} {reply : Reply} (hrest : AtRest c)
    (h : ¬ call.Permitted c.state) (hreply : reply = call.refusal c.state) : Obeys c call reply c where
  rest := hrest
  refused _ := ⟨hreply, rfl⟩
  permitted hpermitted := absurd hpermitted h
  poisoned hpoisoned _ := hpoisoned
  closed hclose := by
    subst hclose
    exact absurd trivial h

/-- A permitted call other than closing. -/
lemma Obeys.of_permitted {call : Call} {reply : Reply} {c' : Connection}
    (hpermitted : call.Permitted c.state) (hstate : c.state ≠ .poisoned) (hcall : call ≠ .close)
    (h : AtRest c' ∧ reply.LeadsTo c'.state) : Obeys c call reply c' where
  rest := h.1
  refused hrefused := absurd hpermitted hrefused
  permitted _ := h.2
  poisoned hpoisoned _ := absurd hpoisoned hstate
  closed hclose := absurd hclose hcall

/-- Every call leads from rest to rest. -/
lemma obeys_run (hrest : AtRest c) (call : Call) : Obeys c call (call.run c).1 (call.run c).2 := by
  cases call with
  | connect dial =>
      by_cases hpermitted : c.state = .disconnected ∨ c.state = .closed
      · refine .of_permitted hpermitted ?_ (by simp) (connect_atRest hrest dial hpermitted)
        rcases hpermitted with h | h <;> simp [h]
      · rw [Call.run, connect_of_not_permitted dial hpermitted]
        exact .of_refused hrest hpermitted rfl
  | request r =>
      by_cases hready : c.state = .ready
      · refine .of_permitted hready (by simp [hready]) (by simp) ?_
        cases r with
        | query text settings => exact query_atRest hrest hready text settings
        | ping => exact ping_atRest hrest hready
      · rw [Call.run, run_of_not_ready r hready]
        exact .of_refused hrest hready rfl
  | close =>
      obtain ⟨hclosed, honce⟩ := close_atRest c
      exact ⟨hclosed, fun h => absurd trivial h, fun _ => rfl, fun _ h => absurd rfl h,
        fun _ => ⟨rfl, rfl, honce⟩⟩

/-! ## Reachable connections -/

/-- Reachable connections are at rest. -/
lemma Reachable.atRest (h : c.Reachable) : AtRest c := by
  induction h with
  | new config => exact .outside (.inl rfl) rfl rfl rfl
  | openWith config peer => exact (handshakeOr_atRest (.inr rfl) rfl rfl).1
  | connect _ dial ih => exact (obeys_run ih (.connect dial)).rest
  | query _ text settings ih => exact (obeys_run ih (.request (.query text settings))).rest
  | ping _ ih => exact (obeys_run ih (.request .ping)).rest
  | close _ ih => exact (obeys_run ih .close).rest

/-- After any calls on a connection, whatever the network and the peers did, it is at rest, and the next
call does to it what its state allows. -/
theorem Reachable.lifecycle (h : c.Reachable) (calls : List Call) (call : Call) :
    AtRest (c.after calls) ∧
      Obeys (c.after calls) call (call.run (c.after calls)).1 (call.run (c.after calls)).2 :=
  ⟨(h.after calls).atRest, obeys_run (h.after calls).atRest call⟩

/-- Connecting to a peer that greets and sends one byte more, and a ping that meets this byte. -/
def brokenCalls : List Call :=
  [.connect fun _ => .ok { incoming := [[0, 0, 0, 0, 0], [9]] }, .request .ping]

/-- After these calls the connection is poisoned, and another ping is refused and changes nothing. -/
theorem lifecycle_broken :
    ((new {}).after brokenCalls).state = .poisoned ∧ AtRest ((new {}).after brokenCalls) ∧
      (Call.request .ping).run ((new {}).after brokenCalls) =
        (.alive false, (new {}).after brokenCalls) := by
  have hstate : ((new {}).after brokenCalls).state = .poisoned := by
    decide +kernel
  obtain ⟨hrest, hobeys⟩ := Reachable.lifecycle (.new {}) brokenCalls (.request .ping)
  refine ⟨hstate, hrest, ?_⟩
  have hrefused : ¬ (Call.request .ping).Permitted ((new {}).after brokenCalls).state := by
    rw [hstate]
    simp [Call.Permitted]
  obtain ⟨hreply, hsame⟩ := hobeys.refused hrefused
  exact Prod.ext hreply hsame

end Connection

end ColumnWire.Session
