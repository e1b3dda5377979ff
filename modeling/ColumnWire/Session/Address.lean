import ColumnWire.Number.Numeral
import ColumnWire.Text.Blank
import ColumnWire.Text.Quoted
import ColumnWire.Text.Split

/-!
# Addresses

Where a server listens: a host and a port. In its text a host with a colon in it stands in square
brackets. `HostAddress.parse` reads the text, with or without a port.
-/

namespace ColumnWire.Session

open ColumnWire.Text ColumnWire.Number

/-- Why a configuration was refused. -/
inductive ConfigError where
  /-- The connection string does not say what it connects to. -/
  | missingScheme (text : String)
  /-- The connection string is for something else. -/
  | invalidScheme (scheme : String)
  /-- The bracket before a host is not closed. -/
  | unterminatedAddress (text : String)
  /-- Something else than a port follows the bracket. -/
  | invalidHost (text : String)
  /-- There is no host. -/
  | emptyHost (text : String)
  /-- The port is no number below 65536. -/
  | invalidPort (port : String)
  /-- An option has a value that it cannot have. -/
  | invalidOption (key value : String)
  /-- There is no host to connect to. -/
  | noHost
  deriving DecidableEq, Repr

/-- The word at the front of a connection string. -/
def scheme : String := "clickhouse"

/-- The words for an error. -/
def ConfigError.message : ConfigError → String
  | .missingScheme text => "missing scheme in " ++ quoted text
  | .invalidScheme found => "invalid scheme: " ++ found ++ ", expected: " ++ scheme
  | .unterminatedAddress text => "unterminated IPv6 address: " ++ text
  | .invalidHost text => "invalid host: " ++ text
  | .emptyHost text => "empty host in " ++ quoted text
  | .invalidPort port => "invalid port: " ++ port
  | .invalidOption key value => "invalid " ++ key ++ ": " ++ value
  | .noHost => "no host configured"

/-- Where a server listens. -/
structure HostAddress where
  /-- A name or an address. -/
  host : String
  /-- The port. -/
  port : UInt16
  deriving DecidableEq, Repr

/-- The port when none is given. -/
def defaultPort : UInt16 := 9000

namespace HostAddress

/-- The address when none is given. -/
def localhost : HostAddress := ⟨"localhost", defaultPort⟩

/-- The characters of an address. -/
def chars (a : HostAddress) : List Char :=
  let port := (toString a.port.toNat).toList
  if a.host.toList.contains ':' then '[' :: a.host.toList ++ ']' :: ':' :: port
  else a.host.toList ++ ':' :: port

/-- The text of an address. -/
def text (a : HostAddress) : String :=
  String.ofList a.chars

/-- The developers' text. -/
def inspect (a : HostAddress) : String :=
  "HostAddr \x7b host: " ++ quoted a.host ++ ", port: " ++ toString a.port.toNat ++ " \x7d"

/-- The host and the text of the port, if there is one. -/
def splitPort (s : List Char) : Except ConfigError (List Char × Option (List Char)) :=
  match s with
  | '[' :: rest =>
    match splitFirst ']' rest with
    | none => .error (.unterminatedAddress (String.ofList s))
    | some (host, []) => .ok (host, none)
    | some (host, ':' :: port) => .ok (host, some port)
    | some _ => .error (.invalidHost (String.ofList s))
  | _ =>
    match splitFirst ':' s with
    | some (host, port) => .ok (host, some port)
    | none => .ok (s, none)

/-- Reads a port. -/
def readPort (s : List Char) : Except ConfigError UInt16 :=
  match readNatural? 65536 s with
  | some n => .ok (UInt16.ofNat n)
  | none => .error (.invalidPort (String.ofList s))

/-- Reads an address from its characters, without the blanks around them. -/
def ofChars (s : List Char) : Except ConfigError HostAddress := do
  let s := trim s
  let (host, port) ← splitPort s
  if host.isEmpty then throw (.emptyHost (String.ofList s))
  let port ← match port with
    | some p => readPort p
    | none => pure defaultPort
  pure ⟨String.ofList host, port⟩

/-- Reads an address from its text. -/
def parse (s : String) : Except ConfigError HostAddress :=
  ofChars s.toList

end HostAddress

end ColumnWire.Session
