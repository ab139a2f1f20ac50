import SchemaModel.Catalog.Server
import SchemaModel.Catalog.TableSignature
import SchemaModel.Catalog.Postgres.Statements
import SchemaModel.Connection.PostgresTarget

/-!
# `SchemaModel.Catalog.Postgres` — the catalog of a PostgreSQL server

Every question is one statement, sent over a connection that is taken for it from a pool.

## Contents
- `Pool`: a server's state, and whether the pool is closed. A closed pool fails every question.
- **Rows.** What each answer's cells mean.
- `catalog`: the server's catalog.
- `openWarnings`, `connect`: what is worth a warning before connecting, and the pool when the server
  answers.
-/

namespace SchemaModel.Postgres

variable {σ : Type}

/-- Connections to a server in a state. -/
structure Pool (σ : Type) where
  server : σ
  closed : Bool

/-- Schemas of the system, which are never read. -/
def systemSchemas : List String := ["pg_catalog", "information_schema", "pg_toast"]

/-- Why a connection is tested. -/
def testPurpose : String := "testing PostgreSQL connection"

/-! ## Asking -/

/-- Takes a connection for a purpose. -/
def checkOut (purpose : String) : Reading (Pool σ) Unit := do
  if (← get).closed then throw (.pool "Pool has been closed" purpose) else return ()

/-- An exchange with the server of the pool. -/
def exchange {α : Type} (ask : Exchange σ α) (fault : String → Fault) : Reading (Pool σ) α := do
  let pool ← get
  let (answer, server) := ask pool.server
  set { pool with server := server }
  match answer with
  | .ok a => return a
  | .error reason => throw (fault reason)

/-- The rows of a catalog query. -/
def ask (server : Server σ) (sql : String) (arguments : List Argument) (context : String) :
    Reading (Pool σ) (List Cells) := do
  checkOut ("getting connection for " ++ context)
  exchange (server.query ⟨sql, arguments⟩) (.query sql)

/-- The rows about something with a schema and a name. -/
def askAbout (server : Server σ) (sql schema name context : String) :
    Reading (Pool σ) (List Cells) :=
  ask server sql [.text schema, .text name] context

/-! ## Rows -/

/-- A table. -/
def tableRow (row : Cells) : TableRow := ⟨row.text 0, row.text 1, row.text? 2⟩

/-- A column. -/
def columnRow (row : Cells) : ColumnRow :=
  ⟨row.text 0, row.int 1, row.text 2, row.int? 3, row.int? 4, row.int? 5, row.text? 6⟩

/-- How a column gets its values. -/
def columnFlagsRow (row : Cells) : ColumnFlagsRow :=
  ⟨row.text 0, row.bool 1, row.bool 2, row.bool 3, row.text? 4⟩

/-- A routine; the letter `p` marks a procedure. -/
def routineRow (row : Cells) : RoutineRow :=
  ⟨row.text 0, row.text 1, row.text 2, if row.text 3 == "p" then .procedure else .function,
    row.text? 4, row.bool 5, row.text? 6, row.text? 7⟩

/-- An input of a routine. -/
def parameterRow (row : Cells) : ParameterRow :=
  ⟨row.text 0, row.int 1, row.text 2, row.text? 3, row.bool 4, row.bool 5, row.bool 6⟩

/-- Outputs of a routine as columns, counted from a number on. -/
def outputRowsFrom (ordinal : Int) : List Cells → List ResultColumnRow
  | [] => []
  | row :: rest =>
    ⟨row.text 0, ordinal, row.text 2, true, row.int? 3⟩ :: outputRowsFrom (ordinal + 1) rest

/-- An attribute of a composite type; a row without a name is none. -/
def attributeRow? (row : Cells) : Option ResultColumnRow :=
  (row.text? 0).map fun name =>
    ⟨name, row.int 1, row.text 2, (row.bool? 3).getD true, row.int? 4⟩

/-- A user-defined type from its rows. The first row says what kind of type it is. -/
def userTypeRow? (schema name : String) (rows : List Cells) : Option UserTypeRow :=
  match rows with
  | [] => none
  | first :: _ =>
    some ⟨schema, name, .ofCode (first.text 6), first.text? 7, first.text? 5,
      rows.filterMap attributeRow?⟩

/-! ## The catalog -/

/-- The columns that a routine returns: those of its signature, else its outputs when it returns a
record of them. -/
def resultColumns (server : Server σ) (routine : RoutineRow) :
    Reading (Pool σ) (List ResultColumnRow) :=
  match routine.resultSignature.bind TableSignature.parse? with
  | some columns => return columns
  | none =>
    if routine.returnType = some "record" then do
      let rows ← askAbout server Statements.outParameters routine.schema routine.specificName
        "routine_result_columns"
      return outputRowsFrom 1 rows
    else return []

/-- The system's schemas and those to leave out. -/
def excluded (schemas : List String) : List Argument := [.texts (systemSchemas ++ schemas)]

/-- The server's catalog. -/
def catalog (server : Server σ) : Catalog (Pool σ) where
  engine := .postgres
  tables := fun schemas => do
    return (← ask server Statements.tables (excluded schemas) "tables").map tableRow
  columns := fun table => do
    return (← askAbout server Statements.columns table.schema table.name "columns").map columnRow
  columnFlags := fun table => do
    return (← askAbout server Statements.columnFlags table.schema table.name "column_flags").map
      columnFlagsRow
  keyConstraints := fun table => do
    let rows ← askAbout server Statements.keyConstraints table.schema table.name
      "key_constraints"
    return groupKeys (rows.map keyColumn)
  foreignKeys := fun table => do
    return (← askAbout server Statements.foreignKeys table.schema table.name "foreign_keys").map
      foreignKeyRow
  routines := fun schemas => do
    return (← ask server Statements.routines (excluded schemas) "routines").map routineRow
  parameters := fun routine => do
    let rows ← askAbout server Statements.parameters routine.schema routine.specificName
      "routine_parameters"
    return rows.map parameterRow
  resultColumns := resultColumns server
  userType := fun schema name => do
    return userTypeRow? schema name
      (← askAbout server Statements.userType schema name "user_type")
  execute := fun sql => do
    checkOut "getting connection for execute"
    if PostgresTarget.isSendable sql then exchange (server.execute sql) (.query sql)
    else throw (.query sql "error encoding message to server")
  testConnection := do
    checkOut testPurpose
    exchange server.ping fun _ => .postgres
  close := modify fun pool => { pool with closed := true }

/-! ## Connecting -/

/-- Where the server is and how the connection is protected. -/
def target (s : DatabaseSettings) : Outcome (PostgresTarget × SslMode) := do
  let t ← PostgresTarget.ofSettings s
  return (t, ← SslMode.ofWord s.sslMode)

/-- What is worth a warning about a connection. -/
def openWarnings (mode : SslMode) : List Warning :=
  if mode.requiresTls then mode.warnings else [.plaintextConnection]

/-- A pool for a server that was reached, once it answers; or what kept it from being reached. -/
def connect (server : Server σ) (reached : Except String σ) : Outcome (Pool σ) :=
  match reached with
  -- Nothing is sent before the first question, so it is the test that finds the server away.
  | .error reason => .error (.pool reason testPurpose)
  | .ok state =>
    match (catalog server).testConnection.run ⟨state, false⟩ with
    | (.ok _, pool) => .ok pool
    | (.error e, _) => .error e

end SchemaModel.Postgres
