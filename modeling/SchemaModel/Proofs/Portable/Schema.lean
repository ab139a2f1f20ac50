import SchemaModel.Catalog.Offline
import SchemaModel.Proofs.NativeType.Tables
import SchemaModel.Proofs.Naming.Spellings

/-!
# `SchemaModel.Proofs.Portable.Schema` — a database that both engines can hold

A portable schema names its tables and columns by words and types its columns by what both engines
offer. It can be written down for either engine: in `snake_case` and PostgreSQL's types under
`public`, or in `PascalCase` and SQL Server's types under `dbo`.

## Contents
- `SharedType`: a type with a name in either engine, and the kind of value that it holds.
- `Column`, `Key`, `ForeignKey`, `Table`, `Schema`: the parts. Names in one scope are separated, and
  keys are about columns that exist.
- `Schema.snapshot`: the schema as written down for an engine.
-/

namespace SchemaModel.Portable

/-! ## Types of columns -/

/-- A type that both engines have. -/
inductive SharedType where
  | boolean
  | smallint
  | integer
  | bigint
  | numeric
  | real
  | double
  | characters
  | xml
  | timestamp
  | timestampOffset
  | date
  | time
  | bytes
  | uuid
  deriving DecidableEq, Repr

namespace SharedType

/-- The name of the type in PostgreSQL. -/
def postgresName : SharedType → String
  | .boolean => "boolean"
  | .smallint => "smallint"
  | .integer => "integer"
  | .bigint => "bigint"
  | .numeric => "numeric"
  | .real => "real"
  | .double => "double precision"
  | .characters => "character varying"
  | .xml => "xml"
  | .timestamp => "timestamp without time zone"
  | .timestampOffset => "timestamp with time zone"
  | .date => "date"
  | .time => "time without time zone"
  | .bytes => "bytea"
  | .uuid => "uuid"

/-- The name of the type in SQL Server. -/
def sqlServerName : SharedType → String
  | .boolean => "bit"
  | .smallint => "smallint"
  | .integer => "int"
  | .bigint => "bigint"
  | .numeric => "decimal"
  | .real => "real"
  | .double => "float"
  | .characters => "nvarchar"
  | .xml => "xml"
  | .timestamp => "datetime2"
  | .timestampOffset => "datetimeoffset"
  | .date => "date"
  | .time => "time"
  | .bytes => "varbinary"
  | .uuid => "uniqueidentifier"

/-- The name of the type in an engine. -/
def native (t : SharedType) : Engine → String
  | .postgres => t.postgresName
  | .sqlServer => t.sqlServerName

/-- The kind of value that the type holds in either engine. -/
def kind : SharedType → ValueKind
  | .boolean => .boolean
  | .smallint => .int16
  | .integer => .int32
  | .bigint => .int64
  | .numeric => .decimal
  | .real => .single
  | .double => .double
  | .characters => .string
  | .xml => .xml
  | .timestamp => .dateTime
  | .timestampOffset => .dateTimeOffset
  | .date => .dateOnly
  | .time => .timeOnly
  | .bytes => .binary
  | .uuid => .guid

theorem plain_native (t : SharedType) (engine : Engine) : NativeType.Plain (t.native engine) := by
  cases engine <;> cases t <;> decide

/-- The type maps of the engines agree on shared types. -/
theorem valueType?_native (t : SharedType) (engine : Engine) :
    engine.valueType? (t.native engine) = some (.of t.kind) := by
  have hlookup : NativeType.lookup engine.typeTable (t.native engine) = some t.kind := by
    cases engine <;> cases t <;> decide
  rw [engine.valueType?_plain (plain_native t engine), hlookup, Option.map_some]

/-- The names are in normal form already. -/
theorem normalize_native (t : SharedType) (engine : Engine) :
    NativeType.normalize (t.native engine) = t.native engine :=
  NativeType.normalize_plain (plain_native t engine)

theorem isRowVersion_native (t : SharedType) (engine : Engine) :
    NativeType.isRowVersion (t.native engine) = false := by
  unfold NativeType.isRowVersion
  rw [normalize_native]
  cases engine <;> cases t <;> decide

theorem native_ne_tsvector (t : SharedType) (engine : Engine) :
    (t.native engine == "tsvector") = false := by
  cases engine <;> cases t <;> decide

/-- The name of a type declares something to return. -/
theorem isVoid_native (t : SharedType) (engine : Engine) :
    engine.isVoid (some (t.native engine)) = false := by
  cases engine <;> cases t <;> decide +kernel

theorem isPseudoType_native (t : SharedType) (engine : Engine) :
    Inspection.isPseudoType (t.native engine) = false := by
  cases engine <;> cases t <;> decide +kernel

theorem kind_injective {t u : SharedType} (h : t.kind = u.kind) : t = u := by
  cases t <;> cases u <;> first | rfl | cases h

/-- Within an engine, shared types have different names. -/
theorem native_injective {t u : SharedType} {engine : Engine}
    (h : t.native engine = u.native engine) : t = u := by
  have ht := t.valueType?_native engine
  rw [h, u.valueType?_native engine] at ht
  have hkind := congrArg ValueType.kind (Option.some.inj ht)
  exact kind_injective hkind.symm

end SharedType

/-! ## Parts -/

/-- A column with its flags. -/
structure Column where
  name : Name
  type : SharedType
  size : Option Int
  precision : Option Int
  scale : Option Int
  isNullable : Bool
  isIdentity : Bool
  isComputed : Bool
  description : Option String

/-- A key constraint. Each engine may have its own name for it. -/
structure Key where
  name : Engine → String
  kind : KeyKind
  columns : List Name

/-- One pair of columns of a foreign key. Each engine may have its own name for it. -/
structure ForeignKey where
  name : Engine → String
  column : Name
  table : Name
  target : Name

/-- A table. Its columns have separated names, and its keys are about them. -/
structure Table where
  name : Name
  description : Option String
  columns : List Column
  keys : List Key
  foreignKeys : List ForeignKey
  separated : Separated (columns.map Column.name)
  keyColumns : ∀ k ∈ keys, ∀ c ∈ k.columns, c ∈ columns.map Column.name
  foreignColumns : ∀ k ∈ foreignKeys, k.column ∈ columns.map Column.name

/-- The first table of a name. -/
def tableNamed? (tables : List Table) (name : Name) : Option Table :=
  tables.find? fun t => t.name = name

/-- A schema. Its tables have separated names, and foreign keys end at columns that exist. -/
structure Schema where
  tables : List Table
  separated : Separated (tables.map Table.name)
  targets : ∀ t ∈ tables, ∀ k ∈ t.foreignKeys, ∃ u, tableNamed? tables k.table = some u ∧
    k.target ∈ u.columns.map Column.name

/-! ## Written down -/

/-- The column as written down for an engine. -/
def Column.stored (engine : Engine) (c : Column) : StoredColumn where
  name := c.name.on engine
  nativeType := c.type.native engine
  size := c.size
  precision := c.precision
  scale := c.scale
  isNullable := c.isNullable
  isIdentity := c.isIdentity
  isComputed := c.isComputed
  defaultValue := none
  description := c.description

/-- The constraint as written down for an engine. -/
def Key.row (engine : Engine) (k : Key) : KeyConstraintRow :=
  ⟨k.name engine, k.kind, k.columns.map fun c => c.on engine⟩

/-- The foreign key as written down for an engine. -/
def ForeignKey.row (engine : Engine) (k : ForeignKey) : ForeignKeyRow :=
  ⟨k.name engine, k.column.on engine, engine.defaultNamespace, k.table.on engine,
    k.target.on engine⟩

/-- The table as written down for an engine. -/
def Table.stored (engine : Engine) (t : Table) : StoredTable where
  schema := engine.defaultNamespace
  name := t.name.on engine
  description := t.description
  columns := t.columns.map (Column.stored engine)
  constraints := t.keys.map (Key.row engine)
  foreignKeys := t.foreignKeys.map (ForeignKey.row engine)

/-- The schema as written down for an engine. -/
def Schema.snapshot (schema : Schema) (engine : Engine) : CatalogSnapshot where
  engine := engine
  tables := schema.tables.map (Table.stored engine)
  routines := []
  userTypes := []

end SchemaModel.Portable
