import ColumnWire.Number.Numeral
import ColumnWire.Packet.Block

/-!
# Fixtures

Databases for tests: the statements that create and drop one, the settings of a live server from
environment variables, and the settings of a container that runs one.
-/

namespace ColumnWire.Server

open ColumnWire.Packet ColumnWire.Number

/-- A database for tests. -/
structure Fixture where
  /-- The name of the database. -/
  database : String
  /-- Its tables with their columns. -/
  tables : List (String × List Column) := []

namespace Fixture

/-- A name between the quotes of the query language. -/
def quotedName (name : String) : String :=
  "`" ++ name ++ "`"

/-- The statement that creates the database. -/
def createDatabase (f : Fixture) : String :=
  "CREATE DATABASE IF NOT EXISTS " ++ quotedName f.database

/-- The columns in a statement. -/
def columnList (columns : List Column) : String :=
  String.intercalate ", " (columns.map fun c => quotedName c.name ++ " " ++ c.typeName)

/-- The statements that create the tables. -/
def createTables (f : Fixture) : List String :=
  f.tables.map fun t =>
    "CREATE TABLE IF NOT EXISTS " ++ quotedName f.database ++ "." ++ quotedName t.1 ++ " (" ++
      columnList t.2 ++ ") ENGINE = Memory"

/-- The statement that drops the database. -/
def dropDatabase (f : Fixture) : String :=
  "DROP DATABASE IF EXISTS " ++ quotedName f.database

end Fixture

/-- The settings of a live server. -/
structure LiveServer where
  /-- The host. -/
  host : String
  /-- The port. -/
  port : Nat
  /-- The name of the user. -/
  user : String
  /-- The password. -/
  password : String
  /-- The database. -/
  database : String
  deriving DecidableEq, Repr

/-- The settings in environment variables; none without a host. A port that is no port is the default
one. -/
def LiveServer.ofEnvironment (lookup : String → Option String) : Option LiveServer :=
  (lookup "CLICKHOUSE_HOST").map fun host =>
    { host
      port := ((lookup "CLICKHOUSE_PORT").bind fun p => readNatural? 65536 p.toList).getD 9000
      user := (lookup "CLICKHOUSE_USER").getD "default"
      password := (lookup "CLICKHOUSE_PASSWORD").getD ""
      database := (lookup "CLICKHOUSE_DATABASE").getD "default" }

/-- The settings of a container. -/
structure Container where
  /-- The user that is created. -/
  user : String := "default"
  /-- The user's password. -/
  password : String := "Password123"
  /-- The database that is created. -/
  database : String := "default"
  /-- The version of the image. -/
  tag : String := "23.8"
  deriving DecidableEq, Repr

namespace Container

/-- The name of the image. -/
def imageName : String := "clickhouse/clickhouse-server"

/-- The environment variables of the container. -/
def environment (c : Container) : List (String × String) :=
  [("CLICKHOUSE_USER", c.user), ("CLICKHOUSE_PASSWORD", c.password),
    ("CLICKHOUSE_DB", c.database), ("CLICKHOUSE_DEFAULT_ACCESS_MANAGEMENT", "1")]

/-- The ports that the container opens. -/
def ports : List Nat := [9000]

/-- What tells that the server is ready. -/
inductive ReadySign where
  /-- A line on the error stream. -/
  | errorLine (text : String)
  /-- A pause of so many seconds. -/
  | seconds (n : Nat)
  deriving DecidableEq, Repr

/-- What is waited for before the server is used. -/
def readySigns : List ReadySign :=
  [.errorLine "Ready for connections", .seconds 1]

end Container

end ColumnWire.Server
