import SchemaModel.Naming
import SchemaModel.NativeType
import SchemaModel.Identifier
import SchemaModel.Reserved

/-!
# `SchemaModel.Engine` — the rules of a database engine

Each engine compares identifiers, escapes them, maps types and spells statements in its own way.

## Contents
- `Engine`: PostgreSQL or SQL Server, with its words and defaults.
- **Names.** `namesEqual` is how the engine compares identifiers: exactly, or without the case of
  ASCII letters. `escapeName` delimits a name only where the engine would misread it.
- **Types.** `valueType?`, `isDateOnly`, `isTimeOnly`, `isVoid`, `isGeneratedDefault`.
- **Statements.** `dropRoutine`, `dropType`.
-/

namespace SchemaModel

/-- The kinds of stored routines. -/
inductive RoutineKind where
  | function
  | procedure
  deriving DecidableEq, Repr, Inhabited

/-- A database engine. -/
inductive Engine where
  | postgres
  | sqlServer
  deriving DecidableEq, Repr, Inhabited

namespace Engine

/-- The engines by their words in records. -/
def table : List (String × Engine) := [("postgres", .postgres), ("sql_server", .sqlServer)]

/-- The word for the engine in records. -/
def word : Engine → String
  | .postgres => "postgres"
  | .sqlServer => "sql_server"

/-- The engine as messages name it. -/
def title : Engine → String
  | .postgres => "postgres"
  | .sqlServer => "sqlserver"

/-- The name of the engine's dialect. -/
def dialectName : Engine → String
  | .postgres => "postgres"
  | .sqlServer => "mssql"

/-- The engine that a word in any letter case names. -/
def parse? (s : String) : Option Engine :=
  let key := Text.lowercase s
  if ["postgres", "postgresql", "pg"].contains key then some .postgres
  else if ["sqlserver", "sql_server", "mssql"].contains key then some .sqlServer
  else none

/-- The engine for a word, or why there is none. -/
def ofWord (s : String) : Outcome Engine :=
  match parse? s with
  | some engine => .ok engine
  | none => Fault.setting (.unknownEngine s)

/-- The port a server listens on unless told otherwise. -/
def defaultPort : Engine → Nat
  | .postgres => 5432
  | .sqlServer => 1433

/-- The schema of unqualified names. -/
def defaultNamespace : Engine → String
  | .postgres => "public"
  | .sqlServer => "dbo"

/-- The customary style of identifiers. -/
def defaultNaming : Engine → NamingStyle
  | .postgres => .snakeCase
  | .sqlServer => .pascalCase

/-! ## Names -/

/-- Two identifiers are the same to the engine. -/
def namesEqual (engine : Engine) (a b : String) : Bool :=
  match engine with
  | .postgres => a == b
  | .sqlServer => Text.eqIgnoreAsciiCase a b

theorem namesEqual_refl (engine : Engine) (a : String) : engine.namesEqual a a = true := by
  cases engine
  · simp [namesEqual]
  · exact Text.eqIgnoreAsciiCase_refl a

theorem namesEqual_comm (engine : Engine) (a b : String) :
    engine.namesEqual a b = engine.namesEqual b a := by
  cases engine
  · simp only [namesEqual]
    exact Bool.eq_iff_iff.2 ⟨fun h => beq_iff_eq.2 (beq_iff_eq.1 h).symm,
      fun h => beq_iff_eq.2 (beq_iff_eq.1 h).symm⟩
  · exact Text.eqIgnoreAsciiCase_comm a b

theorem namesEqual_trans (engine : Engine) {a b c : String}
    (hab : engine.namesEqual a b = true) (hbc : engine.namesEqual b c = true) :
    engine.namesEqual a c = true := by
  cases engine
  · simp only [namesEqual, beq_iff_eq] at *
    exact hab.trans hbc
  · exact Text.eqIgnoreAsciiCase_trans hab hbc

/-- Names that are one to an engine agree up to letter case. -/
theorem eqIgnoreAsciiCase_of_namesEqual (engine : Engine) {a b : String}
    (h : engine.namesEqual a b = true) : Text.eqIgnoreAsciiCase a b = true := by
  cases engine with
  | sqlServer => exact h
  | postgres =>
    rw [beq_iff_eq.1 h]
    exact Text.eqIgnoreAsciiCase_refl b

/-- How the engine delimits identifiers. -/
def marks : Engine → Identifier.Marks
  | .postgres => .double
  | .sqlServer => .bracket

/-- The words that the engine reserves. -/
def reservedWords : Engine → List String
  | .postgres => Reserved.postgresWords
  | .sqlServer => Reserved.sqlServerWords

/-- The engine reserves the name. -/
def isReserved (engine : Engine) (name : String) : Bool :=
  Reserved.isReserved engine.reservedWords name

/-- The name, delimited when the engine reserves it. -/
def escapeReserved (engine : Engine) (name : String) : String :=
  if engine.isReserved name then Identifier.wrap engine.marks name else name

/-- A character of a PostgreSQL identifier that needs no quotes. -/
def isPlainChar (c : Char) : Bool :=
  Text.isAsciiLower c || Text.isAsciiDigit c || c == '_' || c == '$'

/-- A PostgreSQL identifier that survives folding to lower case: small letters, digits, `_` and
`$`, starting with a letter or `_`. -/
def isPlain (name : String) : Bool :=
  match name.toList with
  | [] => false
  | c :: rest => (Text.isAsciiLower c || c == '_') && (c :: rest).all isPlainChar

/-- The name, delimited where the engine would otherwise misread it. -/
def escapeName (engine : Engine) (name : String) : String :=
  -- PostgreSQL folds a bare name to lower case; SQL Server takes it as it stands.
  let safe := match engine with
    | .postgres => isPlain name && !engine.isReserved name
    | .sqlServer => !engine.isReserved name && !name.toList.contains ' '
  if safe then name else Identifier.wrap engine.marks name

/-- A schema and a name, each escaped, joined by a point. -/
def escapeQualified (engine : Engine) (schema name : String) : String :=
  engine.escapeName schema ++ "." ++ engine.escapeName name

/-- The quoted form of a valid name. -/
def quote (engine : Engine) (name : String) : Outcome String := Identifier.quote engine.marks name

/-- The quoted forms of a valid schema and name. -/
def qualify (engine : Engine) (schema name : String) : Outcome String :=
  Identifier.qualify engine.marks schema name

/-! ## Types -/

/-- The value type of a native type. -/
def valueType? (engine : Engine) (nativeType : String) : Option ValueType :=
  match engine with
  | .postgres => NativeType.postgres? nativeType
  | .sqlServer => NativeType.sqlServer? nativeType

/-- The native type is a date without a time of day. -/
def isDateOnly (_ : Engine) (nativeType : String) : Bool := NativeType.isDate nativeType

/-- The native type is a time of day without a date. -/
def isTimeOnly (engine : Engine) (nativeType : String) : Bool :=
  match engine with
  | .postgres => NativeType.postgresTimes.contains (NativeType.normalize nativeType)
  | .sqlServer => NativeType.normalize nativeType == "time"

/-- Parts of a default expression that hand out a fresh value for every row. -/
def generatedDefaults : Engine → List String
  | .postgres => ["nextval(", "gen_random_uuid()", "uuid_generate_v4()"]
  | .sqlServer => ["newid()", "newsequentialid()"]

/-- The default expression assigns a generated value. -/
def isGeneratedDefault (engine : Engine) (expression : String) : Bool :=
  engine.generatedDefaults.any fun part =>
    Text.occursIn part.toList (Text.lowercase expression).toList

/-- A declared return type that means nothing is returned. -/
def isVoid (engine : Engine) (returnType : Option String) : Bool :=
  match returnType with
  | none => true
  | some t =>
    let t := Text.trimmed t
    match engine with
    | .postgres => t == "" || Text.eqIgnoreAsciiCase t "void"
    | .sqlServer => t == ""

/-! ## Statements -/

/-- The statement that drops a routine. PostgreSQL has overloads and needs the argument types. -/
def dropRoutine (engine : Engine) (schema name : String) (kind : RoutineKind)
    (argumentTypes : List String) : Outcome String := do
  let keyword := match kind with
    | .function => "FUNCTION"
    | .procedure => "PROCEDURE"
  let target ← engine.qualify schema name
  let arguments := match engine with
    | .postgres => "(" ++ Text.joined ", " argumentTypes ++ ")"
    | .sqlServer => ""
  return "DROP " ++ keyword ++ " IF EXISTS " ++ target ++ arguments ++ ";"

/-- The statement that drops a user-defined type. -/
def dropType (engine : Engine) (schema name : String) : Outcome String := do
  return "DROP TYPE IF EXISTS " ++ (← engine.qualify schema name) ++ ";"

end Engine

end SchemaModel
