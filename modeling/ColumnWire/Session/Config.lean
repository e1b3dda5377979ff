import ColumnWire.Packet.Hello
import ColumnWire.Session.Address
import ColumnWire.Session.Options
import ColumnWire.Stream.Transport

/-!
# Configuration

What a client needs to know to open a session, how often it tries, and what it sends with every query.
-/

namespace ColumnWire.Session

open ColumnWire.Text ColumnWire.Time ColumnWire.Stream

/-- How often opening a connection is tried again. -/
structure RetryPolicy where
  /-- The greatest number of further attempts. -/
  maxRetries : UInt32 := 3
  /-- The pause before each of them. -/
  pause : Span := Span.ofSeconds 5
  deriving DecidableEq, Repr

namespace RetryPolicy

/-- Whether another attempt is allowed after so many further ones. -/
def allows (p : RetryPolicy) (attempt : UInt32) : Bool :=
  attempt < p.maxRetries

/-- The policy of one attempt. -/
def never : RetryPolicy :=
  { maxRetries := 0 }

end RetryPolicy

/-- The configuration of a client. -/
structure Config where
  /-- The servers; the first is connected to. -/
  hosts : List HostAddress := [HostAddress.localhost]
  /-- The name of the user. -/
  user : String := "default"
  /-- The password, in the clear. -/
  password : String := ""
  /-- The database that the session starts in. -/
  database : String := "default"
  /-- Whether compressed blocks are asked for; there is no way to read them. -/
  compression : Bool := false
  /-- The time limits. -/
  timeouts : Timeouts := {}
  /-- How often opening a connection is tried again. -/
  retry : RetryPolicy := {}
  /-- The name that the client introduces itself with. -/
  clientName : String := Packet.ClientHello.defaultName
  /-- The settings of every query, before its own. -/
  settings : List (String × String) := []
  /-- Options of the connection string that have no meaning here. -/
  options : Options := Options.empty
  /-- How many parsed types are kept. -/
  typeCacheCapacity : Nat := 64
  deriving DecidableEq

namespace Config

/-- The server that is connected to. -/
def primaryHost (c : Config) : Option HostAddress :=
  c.hosts.head?

/-- The configuration for one host, at the port of the first. -/
def withHost (c : Config) (host : String) : Config :=
  { c with hosts := [⟨host, (c.primaryHost.map (·.port)).getD defaultPort⟩] }

/-- The configuration with another port of the first host. -/
def withPort (c : Config) (port : UInt16) : Config :=
  match c.hosts with
  | [] => { c with hosts := [⟨"localhost", port⟩] }
  | first :: rest => { c with hosts := { first with port := port } :: rest }

/-- The configuration with one more setting. -/
def withSetting (c : Config) (key value : String) : Config :=
  { c with settings := c.settings ++ [(key, value)] }

/-- The developers' text of pairs in parentheses. -/
def inspectPairs (ps : List (String × String)) : String :=
  "[" ++ String.intercalate ", " (ps.map fun p => "(" ++ quoted p.1 ++ ", " ++ quoted p.2 ++ ")") ++
    "]"

/-- The developers' text of names and values. -/
def inspectOptions (ps : List (String × String)) : String :=
  "\x7b" ++ String.intercalate ", " (ps.map fun p => quoted p.1 ++ ": " ++ quoted p.2) ++ "\x7d"

/-- The developers' text, in which the password is covered. -/
def inspect (c : Config) : String :=
  "Config \x7b hosts: [" ++ String.intercalate ", " (c.hosts.map HostAddress.inspect) ++ "]" ++
    ", user: " ++ quoted c.user ++
    ", password: \"[REDACTED]\"" ++
    ", database: " ++ quoted c.database ++
    ", compression: " ++ toString c.compression ++
    ", timeouts: TimeoutConfig \x7b connect: " ++ c.timeouts.connect.text ++
    ", send: " ++ c.timeouts.send.text ++
    ", receive: " ++ c.timeouts.receive.text ++ " \x7d" ++
    ", retry: RetryPolicy \x7b max_retries: " ++ toString c.retry.maxRetries ++
    ", retry_timeout: " ++ c.retry.pause.text ++ " \x7d" ++
    ", client_name: " ++ quoted c.clientName ++
    ", settings: " ++ inspectPairs c.settings ++
    ", options: " ++ inspectOptions c.options.entries ++
    ", type_cache_capacity: " ++ toString c.typeCacheCapacity ++ " \x7d"

end Config

end ColumnWire.Session
