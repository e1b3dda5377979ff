import ColumnWire.Wire.Decoder
import ColumnWire.Time.Span

/-!
# Errors of streams

Why bytes could not be sent or received, or were received and could not be decoded.
-/

namespace ColumnWire.Stream

open ColumnWire.Wire ColumnWire.Time

/-- What a time limit is set for. -/
inductive Activity where
  /-- Opening a connection. -/
  | connect
  /-- Sending or shutting down. -/
  | send
  /-- Receiving once. -/
  | receive
  deriving DecidableEq, Repr

/-- The name of an activity. -/
def Activity.name : Activity → String
  | .connect => "connect"
  | .send => "send"
  | .receive => "receive"

/-- Why a stream failed. -/
inductive StreamError where
  /-- No connection could be opened to an address. -/
  | connect (address reason : String)
  /-- An activity took longer than its limit. -/
  | timeout (activity : Activity) (limit : Span)
  /-- There is no connection. -/
  | notConnected
  /-- The stream ended and so many more bytes were needed. -/
  | unexpectedEnd (missing : Nat)
  /-- The system reported a failure. -/
  | io (reason : String)
  /-- The bytes could not be decoded. -/
  | wire (error : WireError)
  deriving DecidableEq, Repr

namespace StreamError

/-- The words for an error. -/
def message : StreamError → String
  | .connect address reason => "failed to connect to " ++ address ++ ": " ++ reason
  | .timeout activity limit => activity.name ++ " timed out after " ++ limit.text
  | .notConnected => "transport is not connected"
  | .unexpectedEnd missing => s!"unexpected end of stream: {missing} more bytes required"
  | .io reason => "IO error: " ++ reason
  | .wire error => "protocol error: " ++ error.message

/-- Whether the stream ended early. -/
def isEnd : StreamError → Bool
  | .unexpectedEnd _ => true
  | _ => false

/-- Whether a time limit was exceeded. -/
def isTimeout : StreamError → Bool
  | .timeout _ _ => true
  | _ => false

/-- Whether the error lies in the connection and not in the bytes. -/
def isTransport : StreamError → Bool
  | .wire _ => false
  | _ => true

end StreamError

end ColumnWire.Stream
