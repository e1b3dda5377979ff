import ColumnWire.Cell.Error
import ColumnWire.Session.Address
import ColumnWire.Session.RemoteError

/-!
# Errors of sessions

The states of a connection and why an operation on it failed. `ClientError.isTransient` says which
failures lie in the transport, and `ClientError.isProtocolError` which lie in the received bytes.
-/

namespace ColumnWire.Session

open ColumnWire.Packet ColumnWire.Cell ColumnWire.Stream

/-- The states of a connection. -/
inductive State where
  /-- Not connected yet. -/
  | disconnected
  /-- Being connected. -/
  | connecting
  /-- Exchanging greetings. -/
  | handshaking
  /-- Ready for a query. -/
  | ready
  /-- Receiving the answer to a query. -/
  | executing
  /-- Broken in the middle of an exchange. -/
  | poisoned
  /-- Closed. -/
  | closed
  deriving DecidableEq, Repr

namespace State

/-- The states, in the order of a session. -/
def all : List State :=
  [.disconnected, .connecting, .handshaking, .ready, .executing, .poisoned, .closed]

theorem mem_all (s : State) : s ∈ all := by
  cases s <;> simp [all]

/-- The name of a state. -/
def name : State → String
  | .disconnected => "disconnected"
  | .connecting => "connecting"
  | .handshaking => "handshaking"
  | .ready => "ready"
  | .executing => "executing"
  | .poisoned => "poisoned"
  | .closed => "closed"

/-- The developers' text. -/
def inspect (s : State) : String :=
  match s.name.toList with
  | [] => ""
  | c :: rest => String.ofList (c.toUpper :: rest)

/-- Whether a query can begin. -/
def isUsable : State → Bool
  | .ready => true
  | _ => false

/-- Whether an exchange is going on. -/
def isBusy : State → Bool
  | .connecting | .handshaking | .executing => true
  | _ => false

/-- Whether the connection is of no more use. -/
def isTerminal : State → Bool
  | .poisoned | .closed => true
  | _ => false

end State

/-- What an operation is called in an error. -/
inductive Operation where
  /-- Opening a connection. -/
  | connect
  /-- Running a query. -/
  | query
  /-- Asking for a sign of life. -/
  | ping
  deriving DecidableEq, Repr

/-- The words for an operation. -/
def Operation.words : Operation → String
  | .connect => "connect"
  | .query => "execute query"
  | .ping => "ping"

/-- When a packet of one kind is required. -/
inductive Stage where
  /-- After the client's greeting. -/
  | handshake
  /-- After a ping. -/
  | ping
  deriving DecidableEq, Repr

/-- The words for a stage. -/
def Stage.words : Stage → String
  | .handshake => "handshake"
  | .ping => "ping"

/-- Why an operation failed. -/
inductive ClientError where
  /-- The stream failed, or its bytes could not be decoded. -/
  | stream (error : StreamError)
  /-- A value of a column could not be read or converted. -/
  | column (name typeName : String) (error : TypeError)
  /-- There is no such column. -/
  | columnNotFound (name : String)
  /-- A row has too few or too many values. -/
  | rowWidth (columns values : Nat)
  /-- The server raised an exception. -/
  | remote (exception : RemoteError)
  /-- A packet came where another was required. -/
  | unexpectedPacket (stage : Stage) (code : UInt64)
  /-- There is no connection. -/
  | notConnected
  /-- The operation is not possible in this state. -/
  | invalidState (state : State) (operation : Operation)
  /-- The configuration is of no use. -/
  | config (error : ConfigError)
  deriving DecidableEq, Repr

namespace ClientError

/-- The words for an error. -/
def message : ClientError → String
  | .stream error => "codec error: " ++ error.message
  | .column name typeName error =>
    "failed to read column " ++ name ++ " of type " ++ typeName ++ ": " ++ error.message
  | .columnNotFound name => "column not found: " ++ name
  | .rowWidth columns values => s!"row has {values} values for {columns} columns"
  | .remote exception => "server exception: " ++ exception.describe
  | .unexpectedPacket stage code =>
    "unexpected packet code " ++ toString code ++ " during " ++ stage.words
  | .notConnected => "not connected"
  | .invalidState state operation =>
    "cannot " ++ operation.words ++ " while connection is " ++ state.name
  | .config error => "configuration error: " ++ error.message

/-- Whether the error lies in the transport, so that another attempt may succeed. -/
def isTransient : ClientError → Bool
  | .stream error => error.isTransport
  | .column _ _ (.stream error) => error.isTransport
  | .notConnected => true
  | _ => false

/-- Whether the server raised an exception. -/
def isRemote : ClientError → Bool
  | .remote _ => true
  | _ => false

/-- Whether the error lies in packets or values. -/
def isProtocolError : ClientError → Bool
  | .stream (.wire _) => true
  | .column _ _ _ => true
  | .rowWidth _ _ => true
  | .unexpectedPacket _ _ => true
  | _ => false

end ClientError

end ColumnWire.Session
