import ColumnWire.Server.Mock
import ColumnWire.Server.Script
import ColumnWire.Session.Client

/-!
# Networks

Where clients meet servers for tests. A network either brings every client to its server or none, and
then says why: `Network.reach` is that decision, and everything that needs a meeting asks it.
-/

namespace ColumnWire.Server

open ColumnWire.Wire ColumnWire.Packet ColumnWire.Stream ColumnWire.Session

/-- Whether clients reach servers. -/
inductive Network where
  /-- Every server is reached. -/
  | connected
  /-- No server is reached, for this reason. -/
  | unreachable (reason : String)
  deriving DecidableEq, Repr

namespace Network

/-- Brings a client to a server, or says why there is no way. -/
def reach (n : Network) : Except String Unit :=
  match n with
  | .connected => .ok ()
  | .unreachable reason => .error reason

/-- Opens a connection to the server at an address. -/
def dial (n : Network) (peer : Peer) (host : HostAddress) : Except StreamError Peer :=
  match n.reach with
  | .ok _ => .ok peer
  | .error reason => .error (.connect host.text reason)

/-- Opens a connection at an address where no server listens. -/
def dialNobody (n : Network) (host : HostAddress) : Except StreamError Peer :=
  match n.reach with
  | .ok _ => .error (.connect host.text "connection refused")
  | .error reason => .error (.connect host.text reason)

/-- Opens the connection of an attempt. A server waits for it with one play for each attempt, the last
one again when there are no more; without any play nobody listens. -/
def dialPlay (n : Network) (plays : List Bytes) (attempt : Nat) (host : HostAddress) :
    Except StreamError Peer :=
  match plays[min attempt (plays.length - 1)]? with
  | some bytes => n.dial { incoming := [bytes] } host
  | none => n.dialNobody host

/-- Runs an exchange that needs a way to the server. -/
def meeting {α : Type} (n : Network) (exchange : α) : Except ServerError α :=
  match n.reach with
  | .ok _ => .ok exchange
  | .error reason => .error (.io reason)

end Network

/-- What a server made of its clients. -/
structure Served where
  /-- The bytes that each client received. -/
  replies : List Bytes
  /-- The queries of all clients. -/
  queries : List Query

/-- Serves clients one after the other. Each sends its bytes and then waits for the end. -/
def Mock.serve (m : Mock) (n : Network) (clients : List Bytes) : Except ServerError Served := do
  let talks ← clients.mapM fun bytes => n.meeting (m.conversation bytes)
  pure ⟨talks.map (·.2.flatten), talks.flatMap (·.1.queries)⟩

end ColumnWire.Server
