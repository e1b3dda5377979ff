import ColumnWire.Packet.Code
import ColumnWire.Packet.Revision
import ColumnWire.Wire.Field

/-!
# Greetings

The packets that open a session. `ClientHello` names the client and its credentials; `ServerHello`
names the server, with fields at its end that depend on the revision that the server announces in it.
-/

namespace ColumnWire.Packet

open ColumnWire.Wire ColumnWire.Text

/-- The greeting of a client. -/
structure ClientHello where
  /-- The name of the client's software. -/
  clientName : String
  /-- The first part of the client's version. -/
  versionMajor : UInt64
  /-- The second part of the client's version. -/
  versionMinor : UInt64
  /-- The revision that the client speaks. -/
  revision : Revision
  /-- The database that the session starts in. -/
  database : String
  /-- The name of the user. -/
  user : String
  /-- The password, in the clear. -/
  password : String
  deriving DecidableEq, Repr

namespace ClientHello

/-- The name under which this client introduces itself. -/
def defaultName : String := "ClickHouse client"

/-- The greeting of this client. -/
def new (database user password : String) : ClientHello where
  clientName := defaultName
  versionMajor := 1
  versionMinor := 0
  revision := Revision.client
  database := database
  user := user
  password := password

/-- The bytes behind the code. -/
def encodeBody (h : ClientHello) : Bytes :=
  TextField.encode h.clientName ++ (Varint.encode h.versionMajor ++
    (Varint.encode h.versionMinor ++ (Varint.encode h.revision.number ++
      (TextField.encode h.database ++ (TextField.encode h.user ++
        TextField.encode h.password)))))

/-- The whole packet. -/
def encode (h : ClientHello) : Bytes :=
  ClientCode.hello.encode ++ h.encodeBody

/-- Takes the bytes behind the code. -/
def decoder : Decoder ClientHello := do
  let clientName ← TextField.decoder
  let versionMajor ← Varint.decoder
  let versionMinor ← Varint.decoder
  let revision ← Varint.decoder
  let database ← TextField.decoder
  let user ← TextField.decoder
  let password ← TextField.decoder
  pure { clientName, versionMajor, versionMinor, revision := ⟨revision⟩, database, user, password }

/-- The developers' text, in which the password is covered. -/
def inspect (h : ClientHello) : String :=
  "ClientHello \x7b client_name: " ++ quoted h.clientName ++
    ", version_major: " ++ toString h.versionMajor ++
    ", version_minor: " ++ toString h.versionMinor ++
    ", revision: Revision(" ++ toString h.revision.number ++ ")" ++
    ", database: " ++ quoted h.database ++
    ", user: " ++ quoted h.user ++
    ", password: \"[REDACTED]\" \x7d"

end ClientHello

/-- The greeting of a server. Fields that its revision does not have are empty or zero on the wire's
other end. -/
structure ServerHello where
  /-- The name of the server's software. -/
  name : String
  /-- The first part of the server's version. -/
  versionMajor : UInt64
  /-- The second part of the server's version. -/
  versionMinor : UInt64
  /-- The revision that the server speaks. -/
  revision : Revision
  /-- The server's time zone. -/
  timezone : String
  /-- The server's name for people. -/
  displayName : String
  /-- The third part of the server's version. -/
  versionPatch : UInt64
  deriving DecidableEq, Repr

namespace ServerHello

/-- The bytes behind the code. -/
def encodeBody (h : ServerHello) : Bytes :=
  TextField.encode h.name ++ (Varint.encode h.versionMajor ++
    (Varint.encode h.versionMinor ++ (Varint.encode h.revision.number ++
      ((if h.revision.hasTimezone then TextField.encode h.timezone else []) ++
        ((if h.revision.hasDisplayName then TextField.encode h.displayName else []) ++
          (if h.revision.hasVersionPatch then Varint.encode h.versionPatch else []))))))

/-- The whole packet. -/
def encode (h : ServerHello) : Bytes :=
  ServerCode.hello.encode ++ h.encodeBody

/-- Takes the bytes behind the code. -/
def decoder : Decoder ServerHello := do
  let name ← TextField.decoder
  let versionMajor ← Varint.decoder
  let versionMinor ← Varint.decoder
  let revision : Revision := ⟨← Varint.decoder⟩
  let timezone ← if revision.hasTimezone then TextField.decoder else pure ""
  let displayName ← if revision.hasDisplayName then TextField.decoder else pure ""
  let versionPatch ← if revision.hasVersionPatch then Varint.decoder else pure 0
  pure { name, versionMajor, versionMinor, revision, timezone, displayName, versionPatch }

/-- The greeting as the other end sees it: without the fields that its revision does not have. -/
def visible (h : ServerHello) : ServerHello :=
  { h with
    timezone := if h.revision.hasTimezone then h.timezone else ""
    displayName := if h.revision.hasDisplayName then h.displayName else ""
    versionPatch := if h.revision.hasVersionPatch then h.versionPatch else 0 }

end ServerHello

end ColumnWire.Packet
