import ColumnWire.Packet.Code
import ColumnWire.Packet.Revision
import ColumnWire.Wire.Field

/-!
# Queries

The packet that submits a query: its id, who asks, the settings as ordered pairs up to an empty name,
how far to process it, whether data is compressed, and its text. A shared secret and a section of
parameters are there only from certain revisions on; this client's parameters are always empty.
-/

namespace ColumnWire.Packet

open ColumnWire.Wire

/-- Where a query comes from. -/
inductive QueryKind where
  /-- There is no query. -/
  | none
  /-- From a client. -/
  | initial
  /-- From another server. -/
  | secondary
  deriving DecidableEq, Repr

namespace QueryKind

/-- The number of a kind. -/
def number : QueryKind → UInt64
  | .none => 0
  | .initial => 1
  | .secondary => 2

/-- The kind with a number. -/
def ofNumber? (n : UInt64) : Except WireError QueryKind :=
  match n.toNat with
  | 0 => .ok .none
  | 1 => .ok .initial
  | 2 => .ok .secondary
  | _ => .error (.malformed (.queryKind n))

/-- The name of a kind. -/
def name : QueryKind → String
  | .none => "NoQuery"
  | .initial => "Initial"
  | .secondary => "Secondary"

end QueryKind

/-- How far the server processes a query. -/
inductive QueryStage where
  /-- Only to the columns of the result. -/
  | fetchColumns
  /-- To states that can still be merged. -/
  | withMergeableState
  /-- To the end. -/
  | complete
  deriving DecidableEq, Repr

namespace QueryStage

/-- The number of a stage. -/
def number : QueryStage → UInt64
  | .fetchColumns => 0
  | .withMergeableState => 1
  | .complete => 2

/-- The stage with a number. -/
def ofNumber? (n : UInt64) : Except WireError QueryStage :=
  match n.toNat with
  | 0 => .ok .fetchColumns
  | 1 => .ok .withMergeableState
  | 2 => .ok .complete
  | _ => .error (.malformed (.queryStage n))

/-- The name of a stage. -/
def name : QueryStage → String
  | .fetchColumns => "FetchColumns"
  | .withMergeableState => "WithMergeableState"
  | .complete => "Complete"

end QueryStage

/-- Whether the blocks after a query are compressed. -/
inductive Compression where
  /-- They are not. -/
  | disabled
  /-- They are. -/
  | enabled
  deriving DecidableEq, Repr

namespace Compression

/-- The state for a flag. -/
def ofFlag (b : Bool) : Compression :=
  if b then .enabled else .disabled

/-- The number of a state. -/
def number : Compression → UInt64
  | .disabled => 0
  | .enabled => 1

/-- The state with a number. -/
def ofNumber? (n : UInt64) : Except WireError Compression :=
  match n.toNat with
  | 0 => .ok .disabled
  | 1 => .ok .enabled
  | _ => .error (.malformed (.compression n))

/-- The name of a state. -/
def name : Compression → String
  | .disabled => "Disabled"
  | .enabled => "Enabled"

end Compression

/-- Takes a number and what it stands for. -/
def numbered {α : Type} (ofNumber? : UInt64 → Except WireError α) : Decoder α := do
  let n ← Varint.decoder
  match ofNumber? n with
  | .ok a => pure a
  | .error e => throw e

/-- Who asks. -/
structure ClientInfo where
  /-- Where the query comes from. -/
  kind : QueryKind
  /-- The user who asked first. -/
  initialUser : String
  /-- The id under which it was asked first. -/
  initialQueryId : String
  /-- The address from which it was asked first. -/
  initialAddress : String
  /-- The revision that the query is written for. -/
  revision : Revision
  /-- The name of the client's software. -/
  clientName : String
  /-- The first part of the client's version. -/
  versionMajor : UInt64
  /-- The second part of the client's version. -/
  versionMinor : UInt64
  /-- The third part of the client's version. -/
  versionPatch : UInt64
  /-- The key to the user's quota; empty if there is none. -/
  quotaKey : String
  deriving DecidableEq, Repr

namespace ClientInfo

/-- The information about a query that this client asks for a user. -/
def initial (user queryId : String) (revision : Revision) : ClientInfo where
  kind := .initial
  initialUser := user
  initialQueryId := queryId
  initialAddress := "127.0.0.1:0"
  revision := revision
  clientName := "clickhouse-native"
  versionMajor := 0
  versionMinor := 1
  versionPatch := 0
  quotaKey := ""

/-- The bytes of the information. -/
def encode (i : ClientInfo) : Bytes :=
  Varint.encode i.kind.number ++ (TextField.encode i.initialUser ++
    (TextField.encode i.initialQueryId ++ (TextField.encode i.initialAddress ++
      (Varint.encode i.revision.number ++ (TextField.encode i.clientName ++
        (Varint.encode i.versionMajor ++ (Varint.encode i.versionMinor ++
          (Varint.encode i.versionPatch ++ TextField.encode i.quotaKey))))))))

/-- Takes the information. -/
def decoder : Decoder ClientInfo := do
  let kind ← numbered QueryKind.ofNumber?
  let initialUser ← TextField.decoder
  let initialQueryId ← TextField.decoder
  let initialAddress ← TextField.decoder
  let revision ← Varint.decoder
  let clientName ← TextField.decoder
  let versionMajor ← Varint.decoder
  let versionMinor ← Varint.decoder
  let versionPatch ← Varint.decoder
  let quotaKey ← TextField.decoder
  pure { kind, initialUser, initialQueryId, initialAddress, revision := ⟨revision⟩, clientName,
         versionMajor, versionMinor, versionPatch, quotaKey }

end ClientInfo

/-- A query. -/
structure Query where
  /-- The id of the query; empty to let the server choose. -/
  queryId : String
  /-- Who asks. -/
  clientInfo : ClientInfo
  /-- Names and values of settings, in order. -/
  settings : List (String × String)
  /-- The secret that servers share. -/
  interserverSecret : String
  /-- How far to process the query. -/
  stage : QueryStage
  /-- Whether blocks after it are compressed. -/
  compression : Compression
  /-- The text of the query. -/
  text : String
  deriving DecidableEq, Repr

namespace Query

/-- A query of this client with nothing set. -/
def new (text user : String) (revision : Revision) : Query where
  queryId := ""
  clientInfo := ClientInfo.initial user "" revision
  settings := []
  interserverSecret := ""
  stage := .complete
  compression := .disabled
  text := text

/-- The revision that decides which fields there are. -/
def revision (q : Query) : Revision :=
  q.clientInfo.revision

/-- The bytes behind the code. -/
def encodeBody (q : Query) : Bytes :=
  TextField.encode q.queryId ++ (q.clientInfo.encode ++
    (Varint.encode (UInt64.ofNat q.settings.length) ++
      (q.settings.flatMap TextField.encodePair ++ (TextField.encode "" ++
        ((if q.revision.hasInterserverSecret then TextField.encode q.interserverSecret else []) ++
          (Varint.encode q.stage.number ++ (Varint.encode q.compression.number ++
            (TextField.encode q.text ++
              (if q.revision.hasParameters then TextField.encode "" else [])))))))))

/-- The whole packet, without the block that follows it. -/
def encode (q : Query) : Bytes :=
  ClientCode.query.encode ++ q.encodeBody

/-- Takes the bytes behind the code. The text at the place of the parameters is not kept. -/
def decoder : Decoder Query := do
  let queryId ← TextField.decoder
  let clientInfo ← ClientInfo.decoder
  let count ← Varint.decoder
  let settings ← repeated count.toNat TextField.pair
  let settingsEnd ← TextField.decoder
  if settingsEnd ≠ "" then throw (.malformed (.settingsEnd settingsEnd))
  let interserverSecret ←
    if clientInfo.revision.hasInterserverSecret then TextField.decoder else pure ""
  let stage ← numbered QueryStage.ofNumber?
  let compression ← numbered Compression.ofNumber?
  let text ← TextField.decoder
  if clientInfo.revision.hasParameters then
    let _ ← TextField.decoder
  pure { queryId, clientInfo, settings, interserverSecret, stage, compression, text }

/-- The query as the other end sees it: without a secret if its revision has none. -/
def visible (q : Query) : Query :=
  { q with
    interserverSecret := if q.revision.hasInterserverSecret then q.interserverSecret else "" }

end Query

end ColumnWire.Packet
