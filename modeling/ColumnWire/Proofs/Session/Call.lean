import Mathlib.Tactic.Common
import ColumnWire.Proofs.Session.Reachable

/-!
# Calls

The calls that a client makes of a connection, in any order, as data: each runs one operation and has
its reply (`Call.run`). What an operation does depends on the state of the connection: where the call is
permitted (`Call.Permitted`), it runs an exchange; elsewhere it is refused (`Call.refusal`) and nothing
else happens. Calls lead from reachable connections to reachable ones (`Reachable.after`).
-/

namespace ColumnWire.Session

open ColumnWire.Wire ColumnWire.Stream

/-- What a client asks a server. -/
inductive Request where
  /-- To run a query with settings of its own. -/
  | query (text : String) (settings : List (String × String))
  /-- For a sign of life. -/
  | ping

/-- A call of an operation. -/
inductive Call where
  /-- Connects; `dial` is what the network answers. -/
  | connect (dial : HostAddress → Except StreamError Peer)
  /-- Asks the server. -/
  | request (r : Request)
  /-- Ends the session. -/
  | close

/-- What a call answers. -/
inductive Reply where
  /-- How connecting went. -/
  | connected (outcome : Except ClientError Unit)
  /-- How a query went. -/
  | result (outcome : Except ClientError QueryResult)
  /-- Whether the server gave a sign of life. -/
  | alive (answered : Bool)
  /-- Nothing but that the session has ended. -/
  | closed

namespace Request

/-- Makes a request. -/
def run : Request → Connection → Reply × Connection
  | .query text settings, c =>
    (.result (outcome (c.query text settings)), finalState (c.query text settings))
  | .ping, c => (.alive c.ping.1, c.ping.2)

end Request

namespace Call

/-- Makes a call. -/
def run : Call → Connection → Reply × Connection
  | .connect dial, c => (.connected (outcome (c.connect dial)), finalState (c.connect dial))
  | .request r, c => r.run c
  | .close, c => (.closed, c.close)

/-- The states in which a call is carried out. -/
def Permitted : Call → State → Prop
  | .connect _, s => s = .disconnected ∨ s = .closed
  | .request _, s => s = .ready
  | .close, _ => True

/-- The reply to a call that is not permitted in a state. -/
def refusal : Call → State → Reply
  | .connect _, s => .connected (.error (.invalidState s .connect))
  | .request (.query _ _), .disconnected => .result (.error .notConnected)
  | .request (.query _ _), .closed => .result (.error .notConnected)
  | .request (.query _ _), s => .result (.error (.invalidState s .query))
  | .request .ping, _ => .alive false
  | .close, _ => .closed

end Call

namespace Connection

variable {c : Connection}

/-! ## Operations by state -/

/-- Connecting in a state in which it is not permitted. -/
lemma connect_of_not_permitted (dial : HostAddress → Except StreamError Peer)
    (h : ¬ (c.state = .disconnected ∨ c.state = .closed)) :
    connect dial c = .error (.invalidState c.state .connect) c := by
  unfold connect
  split
  · next hstate => simp [hstate] at h
  · next hstate => simp [hstate] at h
  · rfl

/-- The connection when it starts to connect, without what is left of a former session. -/
def connecting (c : Connection) : Connection :=
  { c with state := .connecting, input := c.input.clear, output := c.output.clear }

/-- Connecting in a state in which it is permitted. -/
lemma connect_of_permitted (dial : HostAddress → Except StreamError Peer)
    (h : c.state = .disconnected ∨ c.state = .closed) :
    connect dial c =
      match c.config.primaryHost with
      | none => .error (.config .noHost) c
      | some host =>
        match dial host with
        | .ok peer => handshakeOr .disconnected (c.connecting.withTransport (c.transport.attach peer))
        | .error e =>
          .error (.stream e)
            { c.connecting.withTransport c.transport.close with state := .disconnected } := by
  unfold connect
  rcases h with h | h
  all_goals
    rw [h]
    rfl

/-- A query on a connection that is ready. -/
lemma query_of_ready (text : String) (settings : List (String × String)) (h : c.state = .ready) :
    query text settings c =
      match exchangeQuery text settings { c with state := .executing } with
      | .error e c' => .error e { c' with state := .poisoned }
      | .ok r c' =>
        match r.toExcept with
        | .ok r => .ok r { c' with state := .ready }
        | .error e => .error e { c' with state := .ready } := by
  unfold query
  rw [h]
  rfl

/-- A ping on a connection that is ready. -/
lemma ping_of_ready (h : c.state = .ready) :
    ping c =
      match exchangePing c with
      | .ok _ c' => (true, c')
      | .error _ c' => (false, { c' with state := .poisoned }) := by
  unfold ping
  rw [h]
  rfl

/-- A query on a connection that is not ready. -/
lemma query_of_not_ready (text : String) (settings : List (String × String)) (h : c.state ≠ .ready) :
    query text settings c =
      .error (match c.state with
        | .disconnected | .closed => .notConnected
        | s => .invalidState s .query) c := by
  unfold query
  cases hstate : c.state with
  | ready => exact absurd hstate h
  | _ => rfl

/-- A ping on a connection that is not ready. -/
lemma ping_of_not_ready (h : c.state ≠ .ready) : ping c = (false, c) := by
  unfold ping
  cases hstate : c.state with
  | ready => exact absurd hstate h
  | _ => rfl

/-- Without a session that is ready the server is not asked. -/
lemma run_of_not_ready (r : Request) (h : c.state ≠ .ready) :
    r.run c = ((Call.request r).refusal c.state, c) := by
  cases r with
  | query text settings =>
      rw [Request.run, query_of_not_ready text settings h]
      cases c.state <;> rfl
  | ping =>
      rw [Request.run, ping_of_not_ready h]
      rfl

/-- A closed transport has no peer. -/
lemma close_peer (t : Transport) : t.close.peer = none := by
  unfold Transport.close
  split
  · next h => exact h
  · rfl

/-- A closed transport is not attached. -/
lemma isConnected_close (t : Transport) : t.close.isConnected = false := by
  rw [Transport.isConnected, close_peer]
  rfl

/-! ## Calls in a row -/

/-- The connection after calls. -/
def after (c : Connection) : List Call → Connection
  | [] => c
  | call :: rest => (call.run c).2.after rest

/-- A call leads to a reachable connection. -/
lemma Reachable.run {c : Connection} (h : c.Reachable) (call : Call) : (call.run c).2.Reachable := by
  cases call with
  | connect dial => exact h.connect dial
  | close => exact h.close
  | request r =>
      cases r with
      | query text settings => exact h.query text settings
      | ping => exact h.ping

/-- So do any number of calls. -/
lemma Reachable.after {c : Connection} (h : c.Reachable) (calls : List Call) :
    (c.after calls).Reachable := by
  induction calls generalizing c with
  | nil => exact h
  | cons call rest ih => exact ih (h.run call)

end Connection

end ColumnWire.Session
