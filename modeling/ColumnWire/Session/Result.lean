import ColumnWire.Session.Block

/-!
# Results

Everything that a server sends back for a query. Of counters, totals and extremes the last ones count.
-/

namespace ColumnWire.Session

open ColumnWire.Packet

/-- The answer to a query. -/
structure QueryResult where
  /-- The blocks of data, in the order of arrival. -/
  blocks : List Block := []
  /-- The block of totals. -/
  totals : Option Block := none
  /-- The block of extremes. -/
  extremes : Option Block := none
  /-- The exception that ended the query. -/
  exception : Option RemoteError := none
  /-- The counters of the running query. -/
  progress : Progress := {}
  /-- The counters of the whole query. -/
  profile : ProfileInfo := {}

namespace QueryResult

/-- Whether an exception ended the query. -/
def hasException (r : QueryResult) : Bool :=
  r.exception.isSome

/-- The rows of all blocks of data. -/
def rows (r : QueryResult) : List Row :=
  r.blocks.flatMap Block.toRows

/-- The number of rows of all blocks of data. -/
def rowCount (r : QueryResult) : Nat :=
  r.blocks.foldl (fun n b => n + b.rowCount) 0

/-- The result, or the exception as an error. -/
def toExcept (r : QueryResult) : Except ClientError QueryResult :=
  match r.exception with
  | some e => .error (.remote e)
  | none => .ok r

end QueryResult

end ColumnWire.Session
