import ColumnWire.Cell.ColumnType
import ColumnWire.Cell.Decode
import ColumnWire.Cell.Descriptor
import ColumnWire.Cell.Emit
import ColumnWire.Cell.Encode
import ColumnWire.Cell.Error
import ColumnWire.Cell.IntegerType
import ColumnWire.Cell.Target
import ColumnWire.Cell.Value
import ColumnWire.Number.Binary
import ColumnWire.Number.Numeral
import ColumnWire.Number.Shortest
import ColumnWire.Number.Wrap
import ColumnWire.Packet.Block
import ColumnWire.Packet.Client
import ColumnWire.Packet.Code
import ColumnWire.Packet.Hello
import ColumnWire.Packet.Query
import ColumnWire.Packet.Revision
import ColumnWire.Packet.Server
import ColumnWire.Proofs.Cell.Acceptance
import ColumnWire.Proofs.Cell.Arguments
import ColumnWire.Proofs.Cell.Consuming
import ColumnWire.Proofs.Cell.Grammar
import ColumnWire.Proofs.Cell.Inhabited
import ColumnWire.Proofs.Cell.Normal
import ColumnWire.Proofs.Cell.Parsing
import ColumnWire.Proofs.Cell.Reading
import ColumnWire.Proofs.Cell.RoundTrip
import ColumnWire.Proofs.Cell.Segments
import ColumnWire.Proofs.Cell.Solid
import ColumnWire.Proofs.Cell.Typed
import ColumnWire.Proofs.Cell.Written
import ColumnWire.Proofs.Cell.WrittenBack
import ColumnWire.Proofs.Number.Decimal
import ColumnWire.Proofs.Number.Numeral
import ColumnWire.Proofs.Number.Rounding
import ColumnWire.Proofs.Number.Wrap
import ColumnWire.Proofs.Packet.ClientRoundTrip
import ColumnWire.Proofs.Packet.ClientStream
import ColumnWire.Proofs.Packet.Frame
import ColumnWire.Proofs.Packet.Rewritten
import ColumnWire.Proofs.Packet.RoundTrip
import ColumnWire.Proofs.Packet.ServerRoundTrip
import ColumnWire.Proofs.Server.Answering
import ColumnWire.Proofs.Server.Concurrency
import ColumnWire.Proofs.Server.Conversation
import ColumnWire.Proofs.Server.Link
import ColumnWire.Proofs.Server.Prepared
import ColumnWire.Proofs.Session.Address
import ColumnWire.Proofs.Session.Blocks
import ColumnWire.Proofs.Session.Boundary
import ColumnWire.Proofs.Session.Call
import ColumnWire.Proofs.Session.ConnectionString
import ColumnWire.Proofs.Session.Delivery
import ColumnWire.Proofs.Session.Exchange
import ColumnWire.Proofs.Session.Failure
import ColumnWire.Proofs.Session.Grammar
import ColumnWire.Proofs.Session.Greeting
import ColumnWire.Proofs.Session.Isolation
import ColumnWire.Proofs.Session.Lifecycle
import ColumnWire.Proofs.Session.Reachable
import ColumnWire.Proofs.Session.Receiving
import ColumnWire.Proofs.Session.Recency
import ColumnWire.Proofs.Session.RemoteError
import ColumnWire.Proofs.Session.Rendering
import ColumnWire.Proofs.Session.Response
import ColumnWire.Proofs.Session.ResponseRoundTrip
import ColumnWire.Proofs.Session.Retry
import ColumnWire.Proofs.Session.Rows
import ColumnWire.Proofs.Session.Termination
import ColumnWire.Proofs.Session.Transcript
import ColumnWire.Proofs.Session.Truncation
import ColumnWire.Proofs.Session.TypeCache
import ColumnWire.Proofs.Stream.Consuming
import ColumnWire.Proofs.Stream.Ending
import ColumnWire.Proofs.Stream.Pieces
import ColumnWire.Proofs.Stream.ReadAhead
import ColumnWire.Proofs.Stream.Refinement
import ColumnWire.Proofs.Stream.Settled
import ColumnWire.Proofs.Stream.Tape
import ColumnWire.Proofs.Stream.Unnoticed
import ColumnWire.Proofs.Text.Blank
import ColumnWire.Proofs.Text.FormEncoded
import ColumnWire.Proofs.Text.Split
import ColumnWire.Proofs.Time.Seconds
import ColumnWire.Proofs.Wire.Action
import ColumnWire.Proofs.Wire.Layout
import ColumnWire.Proofs.Wire.PrefixStable
import ColumnWire.Proofs.Wire.RoundTrip
import ColumnWire.Proofs.Wire.Shortest
import ColumnWire.Proofs.Wire.Varint
import ColumnWire.Proofs.Wire.VarintFormat
import ColumnWire.Server.Error
import ColumnWire.Server.Fixture
import ColumnWire.Server.Mock
import ColumnWire.Server.Network
import ColumnWire.Server.Packets
import ColumnWire.Server.Response
import ColumnWire.Server.Script
import ColumnWire.Session.Address
import ColumnWire.Session.Block
import ColumnWire.Session.Client
import ColumnWire.Session.Config
import ColumnWire.Session.Connection
import ColumnWire.Session.ConnectionString
import ColumnWire.Session.Error
import ColumnWire.Session.LruMap
import ColumnWire.Session.Options
import ColumnWire.Session.RemoteError
import ColumnWire.Session.Response
import ColumnWire.Session.Result
import ColumnWire.Session.Row
import ColumnWire.Session.TypeCache
import ColumnWire.Stream.Error
import ColumnWire.Stream.Input
import ColumnWire.Stream.Output
import ColumnWire.Stream.Peer
import ColumnWire.Stream.Transport
import ColumnWire.Text.Blank
import ColumnWire.Text.Extender
import ColumnWire.Text.FormEncoded
import ColumnWire.Text.Lossy
import ColumnWire.Text.Quoted
import ColumnWire.Text.Split
import ColumnWire.Text.Unprintable
import ColumnWire.Text.Upper
import ColumnWire.Time.Calendar
import ColumnWire.Time.Span
import ColumnWire.Wire.Decoder
import ColumnWire.Wire.Field
import ColumnWire.Wire.Varint
