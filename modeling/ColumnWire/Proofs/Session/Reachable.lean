import Mathlib.Tactic.Common
import ColumnWire.Proofs.Session.Receiving
import ColumnWire.Session.Connection

/-!
# Reachable connections

The connections that operations lead to, in any order and whatever they answered
(`Connection.Reachable`). Every operation keeps the types of a connection sound, also one that fails
half way, so a reachable connection has sound types (`Connection.Reachable.types_sound`).
-/

namespace ColumnWire.Session

open ColumnWire.Wire ColumnWire.Packet ColumnWire.Cell ColumnWire.Stream ColumnWire.Server

/-! ## Receiving -/

/-- The types of a receiver are sound. -/
def Receiver.Sound (s : Receiver) : Prop :=
  s.types.Sound

/-- A read leaves the types alone. -/
lemma reading_preserves {α : Type} (r : Reader α) : Preserves Receiver.Sound (reading r) := by
  intro s hs
  rw [finalState_reading]
  exact hs

/-- Receiving a response keeps the types sound. -/
lemma receiveResult_preserves : Preserves Receiver.Sound receiveResult := by
  have hsteps : OfSteps fun (α : Type) (m : Receive α) => Preserves Receiver.Sound m :=
    { toComposes := Preserves.composes
      read := fun op => reading_preserves op.reader
      resolve := fun c s hs => by
        rw [finalState_resolve]
        exact TypeCache.Sound.get hs c.typeName
      cell := fun c t s hs => by
        rw [finalState_readingCell]
        exact hs
      width := fun _ _ => Preserves.throw _ }
  intro s hs
  exact hsteps.receivePackets (reading_preserves _) (reading_preserves _) s.input.unreadCount {} s hs

namespace Connection

/-- The types of a connection are sound. -/
def Sound (c : Connection) : Prop :=
  c.types.Sound

/-! ## Exchanges -/

/-- Passing to a state leaves the types alone. -/
lemma enter_preserves (s : State) : Preserves Sound (enter s) := fun _ h => h

/-- So does sending. -/
lemma transmit_preserves (data : Bytes) : Preserves Sound (transmit data) := by
  intro c hc
  unfold transmit
  cases (c.output.write data).flush c.transport <;> exact hc

/-- So does reading. -/
lemma fromInput_preserves {α : Type} (r : Reader α) : Preserves Sound (fromInput r) := by
  intro c hc
  unfold fromInput
  cases r c.input <;> exact hc

/-- What keeps the types of a receiver sound keeps those of the connection sound. -/
lemma fromServer_preserves {α : Type} {m : Receive α} (h : Preserves Receiver.Sound m) :
    Preserves Sound (fromServer m) := by
  intro c hc
  have hm := h ⟨c.input, c.types⟩ hc
  unfold fromServer
  cases hr : m ⟨c.input, c.types⟩ with
  | ok a s =>
      rw [hr] at hm
      exact hm
  | error e s =>
      rw [hr] at hm
      exact hm

/-- Greetings leave the types alone. -/
lemma handshake_preserves : Preserves Sound handshake := by
  refine (enter_preserves _).bind fun _ => ?_
  refine Preserves.bind (fun _ h => h) fun c => ?_
  refine (transmit_preserves _).bind fun _ => (fromInput_preserves _).bind fun raw => ?_
  split
  · exact (fromInput_preserves _).bind fun _ => fun _ h => h
  · exact (fromInput_preserves _).bind fun e => Preserves.throw _
  · exact Preserves.throw _

/-- Also when they fail. -/
lemma handshakeOr_preserves (failed : State) : Preserves Sound (handshakeOr failed) := by
  intro c hc
  have hshake := handshake_preserves c hc
  unfold handshakeOr
  cases h : handshake c with
  | ok a c' =>
      rw [h] at hshake
      exact hshake
  | error e c' =>
      rw [h] at hshake
      exact hshake

/-- Connecting leaves the types alone. -/
lemma connect_preserves (dial : HostAddress → Except StreamError Peer) :
    Preserves Sound (connect dial) := by
  intro c hc
  unfold connect
  cases c.state with
  | disconnected | closed =>
      dsimp only
      cases c.config.primaryHost with
      | none => exact hc
      | some host =>
          dsimp only
          cases dial host with
          | ok peer => exact handshakeOr_preserves .disconnected _ hc
          | error e => exact hc
  | _ => exact hc

/-- A ping leaves the types alone. -/
lemma exchangePing_preserves : Preserves Sound exchangePing := by
  refine (transmit_preserves _).bind fun _ => (fromInput_preserves _).bind fun raw => ?_
  split
  · exact Preserves.throw _
  · exact Preserves.pure ()

/-- A ping keeps the types sound. -/
lemma ping_sound {c : Connection} (hc : c.Sound) : (ping c).2.Sound := by
  have hping := exchangePing_preserves c hc
  unfold ping
  cases notReady c.state .ping with
  | some e => exact hc
  | none =>
      dsimp only
      cases h : exchangePing c with
      | ok a c' =>
          rw [h] at hping
          exact hping
      | error e c' =>
          rw [h] at hping
          exact hping

/-- An exchange for a query keeps the types sound. -/
lemma exchangeQuery_preserves (text : String) (settings : List (String × String)) :
    Preserves Sound (exchangeQuery text settings) := by
  refine Preserves.bind (fun _ h => h) fun c => ?_
  exact (transmit_preserves _).bind fun _ => fromServer_preserves receiveResult_preserves

/-- A query keeps the types sound. -/
lemma query_preserves (text : String) (settings : List (String × String)) :
    Preserves Sound (query text settings) := by
  intro c hc
  have hquery := exchangeQuery_preserves text settings { c with state := .executing } hc
  unfold query
  cases notReady c.state .query with
  | some e => exact hc
  | none =>
      dsimp only
      cases h : exchangeQuery text settings { c with state := .executing } with
      | error e c' =>
          rw [h] at hquery
          exact hquery
      | ok r c' =>
          rw [h] at hquery
          dsimp only
          cases r.toExcept <;> exact hquery

/-! ## Reachable connections -/

/-- The connections that operations lead to. -/
inductive Reachable : Connection → Prop where
  /-- A new connection. -/
  | new (config : Config) : Reachable (new config)
  /-- A connection over a stream to a peer, after the greetings. -/
  | openWith (config : Config) (peer : Peer) : Reachable (finalState (openWith config peer))
  /-- The connection after it was connected. -/
  | connect {c : Connection} (h : Reachable c) (dial : HostAddress → Except StreamError Peer) :
      Reachable (finalState (connect dial c))
  /-- The connection after a query. -/
  | query {c : Connection} (h : Reachable c) (text : String) (settings : List (String × String)) :
      Reachable (finalState (query text settings c))
  /-- The connection after a ping. -/
  | ping {c : Connection} (h : Reachable c) : Reachable (ping c).2
  /-- The connection after it was closed. -/
  | close {c : Connection} (h : Reachable c) : Reachable c.close

/-- The types of a connection over a transport are sound: there are none. -/
lemma ofTransport_sound (config : Config) (t : Transport) : (ofTransport config t).Sound :=
  TypeCache.new_sound config.typeCacheCapacity

/-- A reachable connection has sound types. -/
theorem Reachable.types_sound {c : Connection} (h : c.Reachable) : c.types.Sound := by
  induction h with
  | new config => exact ofTransport_sound config _
  | openWith config peer => exact handshakeOr_preserves .closed _ (ofTransport_sound config _)
  | connect _ dial ih => exact connect_preserves dial _ ih
  | query _ text settings ih => exact query_preserves text settings _ ih
  | ping _ ih => exact ping_sound ih
  | close _ ih => exact ih

end Connection

end ColumnWire.Session
