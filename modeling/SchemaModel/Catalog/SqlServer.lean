import SchemaModel.Catalog.Server
import SchemaModel.Catalog.SqlServer.Statements
import SchemaModel.Connection.SqlServerTarget

/-!
# `SchemaModel.Catalog.SqlServer` — the catalog of a SQL Server

Every question is one statement. Schemas are left out of the answer afterwards, in any letter case,
and sizes that the server counts in bytes are turned into characters.

## Contents
- `characterSize`: the size in characters for a size in bytes.
- **Rows.** What each answer's cells mean.
- `catalog`: the server's catalog; its state is the server's.
- `connect`: the server's state once it answers.
-/

namespace SchemaModel.SqlServer

variable {σ : Type}

/-- Schemas of the system, which are never read. -/
def systemSchemas : List String := ["sys", "INFORMATION_SCHEMA", "guest"]

/-- The schema is the system's or one of those to leave out, in any letter case. -/
def isExcluded (excluded : List String) (schema : String) : Bool :=
  (systemSchemas ++ excluded).any fun s => Text.eqIgnoreAsciiCase s schema

/-- Why a connection is tested. -/
def testPurpose : String := "getting connection for testing SQL Server connection"

/-! ## Asking -/

/-- An exchange with the server. -/
def exchange {α : Type} (ask : Exchange σ α) (fault : String → Fault) : Reading σ α := do
  let (answer, server) := ask (← get)
  set server
  match answer with
  | .ok a => return a
  | .error reason => throw (fault reason)

/-- The rows of a catalog query. -/
def ask (server : Server σ) (sql : String) (arguments : List Argument) :
    Reading σ (List Cells) :=
  exchange (server.query ⟨sql, arguments⟩) (.query sql)

/-- The rows about something with a schema and a name. -/
def askAbout (server : Server σ) (sql schema name : String) : Reading σ (List Cells) :=
  ask server sql [.text schema, .text name]

/-! ## Rows -/

/-- A positive size. -/
def positive (size : Option Int) : Option Int := size.filter fun n => 0 < n

/-- The size in characters for a size in bytes; types that hold no characters or bytes have none,
and neither has an unbounded one. -/
def characterSize (nativeType : String) (bytes : Option Int) : Option Int :=
  (positive bytes).bind fun n =>
    let t := NativeType.normalize nativeType
    if t == "nvarchar" || t == "nchar" then some (n / 2)
    else if ["varchar", "char", "varbinary", "binary"].contains t then some n
    else none

/-- A table. -/
def tableRow (row : Cells) : TableRow := ⟨row.text 0, row.text 1, row.text? 2⟩

/-- A column. -/
def columnRow (row : Cells) : ColumnRow :=
  ⟨row.text 0, row.int 1, row.text 2, characterSize (row.text 2) (row.int? 3), row.int? 4,
    row.int? 5, row.text? 6⟩

/-- How a column gets its values. -/
def columnFlagsRow (row : Cells) : ColumnFlagsRow :=
  ⟨row.text 0, row.flag 1, row.flag 2, row.flag 3, row.text? 4⟩

/-- A declared return type that stands for rows. -/
def returnsRows (returnType : Option String) : Bool :=
  returnType.any fun t => Text.eqIgnoreAsciiCase t "TABLE"

/-- A routine. -/
def routineRow (row : Cells) : RoutineRow :=
  ⟨row.text 0, row.text 1, row.text 2,
    if Text.eqIgnoreAsciiCase (row.text 3) "PROCEDURE" then .procedure else .function,
    row.text? 4, returnsRows (row.text? 4), none, row.text? 5⟩

/-- An input of a routine. -/
def parameterRow (row : Cells) : ParameterRow :=
  ⟨row.text 0, row.int 1, row.text 2, row.text? 3, row.flag 4, row.flag 5, row.flag 6⟩

/-- A column that a function returns; its size is in characters. -/
def functionColumnRow (row : Cells) : ResultColumnRow :=
  ⟨row.text 0, row.int 1, row.text 2, row.flag 3, positive (row.int? 4)⟩

/-- A column of a procedure's rows or of a table type; its size is in bytes. -/
def byteColumnRow (row : Cells) : ResultColumnRow :=
  ⟨row.text 0, row.int 1, row.text 2, row.flag 3, characterSize (row.text 2) (row.int? 4)⟩

/-- A table type from its rows. -/
def userTypeRow? (schema name : String) (rows : List Cells) : Option UserTypeRow :=
  match rows with
  | [] => none
  | first :: _ =>
    some ⟨schema, name, .composite, none, first.text? 5, rows.map byteColumnRow⟩

/-! ## The catalog -/

/-- The columns that a routine returns. A function that does not return rows has none. -/
def resultColumns (server : Server σ) (routine : RoutineRow) : Reading σ (List ResultColumnRow) :=
  match routine.kind with
  | .function =>
    if routine.returnsSet then do
      return (← askAbout server Statements.functionColumns routine.schema routine.name).map
        functionColumnRow
    else return []
  | .procedure => do
    return (← askAbout server Statements.procedureColumns routine.schema routine.name).map
      byteColumnRow

/-- The server's catalog. -/
def catalog (server : Server σ) : Catalog σ where
  engine := .sqlServer
  tables := fun schemas => do
    let rows ← ask server Statements.tables []
    return (rows.map tableRow).filter fun t => !isExcluded schemas t.schema
  columns := fun table => do
    return (← askAbout server Statements.columns table.schema table.name).map columnRow
  columnFlags := fun table => do
    return (← askAbout server Statements.columnFlags table.schema table.name).map columnFlagsRow
  keyConstraints := fun table => do
    let rows ← askAbout server Statements.keyConstraints table.schema table.name
    return groupKeys (rows.map keyColumn)
  foreignKeys := fun table => do
    return (← askAbout server Statements.foreignKeys table.schema table.name).map foreignKeyRow
  routines := fun schemas => do
    let rows ← ask server Statements.routines []
    return (rows.map routineRow).filter fun r => !isExcluded schemas r.schema
  parameters := fun routine => do
    return (← askAbout server Statements.parameters routine.schema routine.name).map parameterRow
  resultColumns := resultColumns server
  userType := fun schema name => do
    return userTypeRow? schema name (← askAbout server Statements.userType schema name)
  execute := fun sql => exchange (server.execute sql) (.query sql)
  testConnection := exchange server.ping fun _ => .sqlServer
  close := pure ()

/-! ## Connecting -/

/-- The state of a server that was reached, once it answers; or what kept it from being reached. -/
def connect (server : Server σ) (reached : Except String σ) : Outcome σ :=
  match reached with
  | .error reason => .error (.pool reason testPurpose)
  | .ok state =>
    match (catalog server).testConnection.run state with
    | (.ok _, state) => .ok state
    | (.error e, _) => .error e

end SchemaModel.SqlServer
