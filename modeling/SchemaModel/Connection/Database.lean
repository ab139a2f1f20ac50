import SchemaModel.Engine
import SchemaModel.Document.Decode
import SchemaModel.Connection.SslMode

/-!
# `SchemaModel.Connection.Database` — which database, and how it is reached

## Contents
- `Provider`: a server of an engine, or a catalog that was written down.
- `DatabaseSettings`: the address, the credentials and the protection of the connection.
- `decode`: the settings of a record. `publicFields` writes them without secrets; `shown` names every
  one and hides secrets.
- `check`: the settings are complete.
-/

namespace SchemaModel

/-- Who answers questions about the catalog. -/
inductive Provider where
  | server (engine : Engine)
  | memory
  deriving DecidableEq, Repr, Inhabited

namespace Provider

/-- The providers by their words in a configuration. -/
def table : List (String × Provider) :=
  [("postgres", .server .postgres), ("sqlserver", .server .sqlServer),
   ("mssql", .server .sqlServer), ("sql_server", .server .sqlServer), ("memory", .memory)]

/-- The word for the provider. -/
def word : Provider → String
  | .server .postgres => "postgres"
  | .server .sqlServer => "sqlserver"
  | .memory => "memory"

/-- The provider as it is shown. -/
def title : Provider → String
  | .server .postgres => "Postgres"
  | .server .sqlServer => "Sqlserver"
  | .memory => "Memory"

/-- The engine of a server; a written catalog has its own. -/
def engine? : Provider → Option Engine
  | .server engine => some engine
  | .memory => none

end Provider

/-- Which database to read and how to reach it. -/
structure DatabaseSettings where
  provider : Provider
  host : String
  port : Option Nat
  database : String
  user : String
  password : String
  connectionString : Option String
  sslMode : String
  encrypt : Bool
  trustServerCert : Bool
  catalogFile : Option String
  poolSize : Nat
  deriving DecidableEq, Repr, Inhabited

namespace DatabaseSettings

/-- The port set, or the one that the engine's servers listen on. -/
def effectivePort (s : DatabaseSettings) : Nat :=
  s.port.getD ((s.provider.engine?.map Engine.defaultPort).getD 0)

/-! ## Records -/

/-- The settings of a record. -/
def decode : Decode.Decoder DatabaseSettings :=
  Decode.record ["provider", "host", "port", "database", "user", "password", "connection_string",
      "ssl_mode", "encrypt", "trust_server_cert", "catalog_file", "pool_size"] fun r => do
    return {
      provider := ← r.required "provider" (Decode.word Provider.table)
      host := ← r.defaulted "host" Decode.text ""
      port := ← r.optional "port" (Decode.natural (Nat.pow 2 16 - 1))
      database := ← r.defaulted "database" Decode.text ""
      user := ← r.defaulted "user" Decode.text ""
      password := ← r.defaulted "password" Decode.text ""
      connectionString := ← r.optional "connection_string" Decode.text
      sslMode := ← r.defaulted "ssl_mode" Decode.text "require"
      encrypt := ← r.defaulted "encrypt" Decode.truth true
      trustServerCert := ← r.defaulted "trust_server_cert" Decode.truth false
      catalogFile := ← r.optional "catalog_file" Decode.text
      poolSize := ← r.defaulted "pool_size" (Decode.natural (Nat.pow 2 64 - 1)) 4 }

/-- An entry for something that may be missing. -/
def entry {α : Type} (key : String) (write : α → Json) (value : Option α) : Json.Fields :=
  match value with
  | some a => [(key, write a)]
  | none => []

/-- A natural number as a value. -/
def numberJson (n : Nat) : Json := .int n

/-- The settings without secrets; what is not set is left out. -/
def publicFields (s : DatabaseSettings) : Json.Fields :=
  [("provider", .string s.provider.word), ("host", .string s.host)] ++
    entry "port" numberJson s.port ++
    [("database", .string s.database), ("user", .string s.user), ("ssl_mode", .string s.sslMode),
     ("encrypt", .bool s.encrypt), ("trust_server_cert", .bool s.trustServerCert)] ++
    entry "catalog_file" .string s.catalogFile ++
    [("pool_size", numberJson s.poolSize)]

/-! ## Showing -/

/-- What stands in place of a secret. -/
def redacted : String := Text.quoted "[REDACTED]"

/-- A value that may be missing, as it is shown. -/
def shownOption (value : Option String) : String :=
  match value with
  | some text => "Some(" ++ text ++ ")"
  | none => "None"

/-- A truth value as it is shown. -/
def shownTruth (b : Bool) : String := if b then "true" else "false"

/-- Every setting by name, secrets hidden. -/
def shown (s : DatabaseSettings) : String :=
  "DatabaseConfig \x7b " ++ Text.joined ", "
    ["provider: " ++ s.provider.title, "host: " ++ Text.quoted s.host,
     "port: " ++ shownOption (s.port.map Decimal.text), "database: " ++ Text.quoted s.database,
     "user: " ++ Text.quoted s.user, "password: " ++ redacted,
     "connection_string: " ++ shownOption (s.connectionString.map fun _ => redacted),
     "ssl_mode: " ++ Text.quoted s.sslMode, "encrypt: " ++ shownTruth s.encrypt,
     "trust_server_cert: " ++ shownTruth s.trustServerCert,
     "catalog_file: " ++ shownOption (s.catalogFile.map Text.quoted),
     "pool_size: " ++ Decimal.text s.poolSize] ++ " \x7d"

/-! ## Checking -/

/-- A file with the catalog is named, or a server's address and user are: by themselves, or in a
connection string. -/
def checkAddress (s : DatabaseSettings) : Outcome Unit :=
  match s.provider with
  | .memory => if s.catalogFile.isNone then Fault.setting .catalogFileMissing else .ok ()
  | .server _ =>
    if s.connectionString.isSome then .ok ()
    else if s.host == "" then Fault.setting (.settingMissing "database.host")
    else if s.database == "" then Fault.setting (.settingMissing "database.database")
    else if s.user == "" then Fault.setting (.settingMissing "database.user")
    else .ok ()

/-- The protection of a PostgreSQL connection is a known one. -/
def checkProtection (s : DatabaseSettings) : Outcome Unit :=
  match s.provider with
  | .server .postgres => (SslMode.ofWord s.sslMode).map fun _ => ()
  | _ => .ok ()

/-- The settings are complete. -/
def check (s : DatabaseSettings) : Outcome Unit := do
  s.checkAddress
  s.checkProtection
  if s.poolSize = 0 then Fault.setting .emptyPool else .ok ()

end DatabaseSettings

end SchemaModel
