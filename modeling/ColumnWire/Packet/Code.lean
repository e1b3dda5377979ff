import ColumnWire.Wire.Varint

/-!
# Packet codes

Every packet begins with a varint that says what follows. Client and server have codes of their own
that overlap.
-/

namespace ColumnWire.Packet

open ColumnWire.Wire

/-- What a client can send. -/
inductive ClientCode where
  /-- The greeting. -/
  | hello
  /-- A query. -/
  | query
  /-- A block of data. -/
  | data
  /-- The request to stop the running query. -/
  | cancel
  /-- The request for a sign of life. -/
  | ping
  deriving DecidableEq, Repr

namespace ClientCode

/-- The number of a code. -/
def number : ClientCode → UInt64
  | .hello => 0
  | .query => 1
  | .data => 2
  | .cancel => 3
  | .ping => 4

/-- The code with a number. -/
def ofNumber? (n : UInt64) : Except WireError ClientCode :=
  match n.toNat with
  | 0 => .ok .hello
  | 1 => .ok .query
  | 2 => .ok .data
  | 3 => .ok .cancel
  | 4 => .ok .ping
  | _ => .error (.unknownClientCode n)

/-- The name of a code. -/
def name : ClientCode → String
  | .hello => "Hello"
  | .query => "Query"
  | .data => "Data"
  | .cancel => "Cancel"
  | .ping => "Ping"

/-- The bytes of a code. -/
def encode (c : ClientCode) : Bytes :=
  Varint.encode c.number

theorem ofNumber?_number (c : ClientCode) : ofNumber? c.number = .ok c := by
  cases c <;> rfl

end ClientCode

/-- What a server can send. -/
inductive ServerCode where
  /-- The greeting. -/
  | hello
  /-- A block of result rows. -/
  | data
  /-- An exception. -/
  | exception
  /-- Counters of the running query. -/
  | progress
  /-- The answer to a ping. -/
  | pong
  /-- The end of the answer to a query. -/
  | endOfStream
  /-- Counters of the whole query. -/
  | profileInfo
  /-- The block of totals. -/
  | totals
  /-- The block of extremes. -/
  | extremes
  /-- The answer to a question about tables. -/
  | tablesStatus
  /-- A block of log lines. -/
  | log
  /-- Columns of a table function. -/
  | tableColumns
  /-- A block of profile events. -/
  | profileEvents
  deriving DecidableEq, Repr

namespace ServerCode

/-- The number of a code. -/
def number : ServerCode → UInt64
  | .hello => 0
  | .data => 1
  | .exception => 2
  | .progress => 3
  | .pong => 4
  | .endOfStream => 5
  | .profileInfo => 6
  | .totals => 7
  | .extremes => 8
  | .tablesStatus => 9
  | .log => 10
  | .tableColumns => 11
  | .profileEvents => 12

/-- The code with a number. -/
def ofNumber? (n : UInt64) : Except WireError ServerCode :=
  match n.toNat with
  | 0 => .ok .hello
  | 1 => .ok .data
  | 2 => .ok .exception
  | 3 => .ok .progress
  | 4 => .ok .pong
  | 5 => .ok .endOfStream
  | 6 => .ok .profileInfo
  | 7 => .ok .totals
  | 8 => .ok .extremes
  | 9 => .ok .tablesStatus
  | 10 => .ok .log
  | 11 => .ok .tableColumns
  | 12 => .ok .profileEvents
  | _ => .error (.unknownServerCode n)

/-- The name of a code. -/
def name : ServerCode → String
  | .hello => "Hello"
  | .data => "Data"
  | .exception => "Exception"
  | .progress => "Progress"
  | .pong => "Pong"
  | .endOfStream => "EndOfStream"
  | .profileInfo => "ProfileInfo"
  | .totals => "Totals"
  | .extremes => "Extremes"
  | .tablesStatus => "TablesStatus"
  | .log => "Log"
  | .tableColumns => "TableColumns"
  | .profileEvents => "ProfileEvents"

/-- The bytes of a code. -/
def encode (c : ServerCode) : Bytes :=
  Varint.encode c.number

theorem ofNumber?_number (c : ServerCode) : ofNumber? c.number = .ok c := by
  cases c <;> rfl

end ServerCode

end ColumnWire.Packet
