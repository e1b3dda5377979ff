import ColumnWire.Cell.Error
import ColumnWire.Packet.Code

/-!
# Errors of servers

Why a server for tests gave a client up, or could not be started.
-/

namespace ColumnWire.Server

open ColumnWire.Packet ColumnWire.Cell ColumnWire.Stream

/-- Which packet a server missed. -/
inductive Breach where
  /-- The client ended the stream. -/
  | closed (expected : ClientCode)
  /-- Another packet came. -/
  | other (expected found : ClientCode)
  deriving DecidableEq, Repr

/-- The words for a breach. -/
def Breach.message : Breach → String
  | .closed expected => "client closed while " ++ expected.name ++ " was expected"
  | .other expected found => "expected " ++ expected.name ++ ", got " ++ found.name

/-- Why a server gave up. -/
inductive ServerError where
  /-- The system reported a failure. -/
  | io (reason : String)
  /-- The stream failed. -/
  | stream (error : StreamError)
  /-- A response could not be written. -/
  | type (error : TypeError)
  /-- The client did not keep to the order of packets. -/
  | breach (missed : Breach)
  deriving DecidableEq, Repr

/-- The words for an error. -/
def ServerError.message : ServerError → String
  | .io reason => "IO error: " ++ reason
  | .stream error => "codec error: " ++ error.message
  | .type error => "response encoding error: " ++ error.message
  | .breach b => "Protocol error: " ++ b.message

end ColumnWire.Server
