import ColumnWire.Stream.Transport
import ColumnWire.Wire.Field

/-!
# Output

Bytes that are collected and then sent as one. After `flush` nothing is pending, whether or not the
bytes could be sent.
-/

namespace ColumnWire.Stream

open ColumnWire.Wire

/-- The bytes that were written and not sent yet. -/
structure Output where
  /-- The pending bytes. -/
  pending : Bytes := []
  deriving DecidableEq, Repr

namespace Output

/-- Whether nothing is pending. -/
def isEmpty (o : Output) : Bool :=
  o.pending.isEmpty

/-- Adds bytes to the pending ones. -/
def write (o : Output) (data : Bytes) : Output :=
  { o with pending := o.pending ++ data }

/-- Forgets what is pending. -/
def clear (_ : Output) : Output :=
  {}

/-- Sends what is pending; without anything pending, nothing happens. -/
def flush (o : Output) : EStateM StreamError Transport Unit :=
  if o.isEmpty then pure () else Transport.send o.pending

end Output

end ColumnWire.Stream
