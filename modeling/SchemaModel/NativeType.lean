import SchemaModel.Text.Cut
import SchemaModel.Value

/-!
# `SchemaModel.NativeType` — type names of the engines

How the type names of each engine map onto value types. Names are compared in a normal form without
letter case, size modifiers, quotes and a leading `setof`.

## Contents
- `normalize`: the normal form of a type name.
- `arrayElement?`: the element type of an array, from either spelling, `integer[]` or `_int4`.
- `postgresKind?`, `sqlServerKind?`: the tables.
- `postgres?`, `sqlServer?`: the value type of a type name; `none` for names outside the tables.
- `isRowVersion`: stamps that change with every write of a row.
-/

namespace SchemaModel.NativeType

/-! ## The normal form -/

/-- Drops the first pair of parentheses with its contents and the blanks before it. -/
def dropModifier (cs : List Char) : List Char :=
  match Text.breakAt? (· == '(') cs with
  | none => cs
  | some (front, _, rest) =>
    match Text.breakAt? (· == ')') rest with
    | none => cs
    | some (_, _, tail) => Text.trimRight front ++ tail

/-- Drops a leading `setof`. -/
def dropSetOf (cs : List Char) : List Char :=
  match Text.after? "setof ".toList cs with
  | none => cs
  | some rest => Text.trim rest

/-- The normal form, on characters already trimmed and in lower case. -/
def normalizeChars (cs : List Char) : List Char :=
  Text.trim ((dropModifier (dropSetOf cs)).filter (· != '"'))

/-- The normal form of a type name. -/
def normalize (nativeType : String) : String :=
  String.ofList (normalizeChars (Text.lowercase (Text.trimmed nativeType)).toList)

/-! ## Arrays -/

/-- Drops every pair of brackets at the end; the text is given backwards. -/
def dropBracketsBackwards : List Char → List Char
  | ']' :: '[' :: rest => dropBracketsBackwards rest
  | cs => cs

/-- The element type of an array type, in normal form. -/
def arrayElement? (nativeType : String) : Option String :=
  let name := (normalize nativeType).toList
  match name.reverse, name with
  -- An array of arrays has the element of the innermost one.
  | ']' :: '[' :: rest, _ => some (String.ofList (dropBracketsBackwards rest).reverse)
  | _, '_' :: rest => some (String.ofList rest)
  | _, _ => none

/-! ## Tables -/

/-- The kinds of PostgreSQL's types. -/
def postgresTable : List (ValueKind × List String) :=
  [(.boolean, ["boolean", "bool"]),
   (.int16, ["smallint", "int2", "smallserial", "serial2"]),
   (.int32, ["integer", "int", "int4", "serial", "serial4"]),
   (.int64, ["bigint", "int8", "bigserial", "serial8", "oid"]),
   (.decimal, ["numeric", "decimal", "money"]),
   (.single, ["real", "float4"]),
   (.double, ["double precision", "float8", "float"]),
   (.string, ["text", "character varying", "varchar", "character", "char", "bpchar", "name",
              "citext", "tsvector", "inet", "cidr", "macaddr"]),
   (.json, ["json", "jsonb"]),
   (.xml, ["xml"]),
   (.dateTime, ["timestamp", "timestamp without time zone"]),
   (.dateTimeOffset, ["timestamptz", "timestamp with time zone"]),
   (.dateOnly, ["date"]),
   (.timeOnly, ["time", "time without time zone", "timetz", "time with time zone"]),
   (.timeSpan, ["interval"]),
   (.binary, ["bytea"]),
   (.guid, ["uuid"]),
   (.object, ["record", "anyelement"])]

/-- The kinds of SQL Server's types. -/
def sqlServerTable : List (ValueKind × List String) :=
  [(.boolean, ["bit"]),
   (.byte, ["tinyint"]),
   (.int16, ["smallint"]),
   (.int32, ["int"]),
   (.int64, ["bigint"]),
   (.decimal, ["decimal", "numeric", "money", "smallmoney"]),
   (.single, ["real"]),
   (.double, ["float"]),
   (.string, ["char", "nchar", "varchar", "nvarchar", "text", "ntext", "sysname"]),
   (.xml, ["xml"]),
   (.dateTime, ["datetime", "datetime2", "smalldatetime"]),
   (.dateTimeOffset, ["datetimeoffset"]),
   (.dateOnly, ["date"]),
   (.timeOnly, ["time"]),
   (.binary, ["binary", "varbinary", "image", "timestamp", "rowversion"]),
   (.guid, ["uniqueidentifier"]),
   (.object, ["sql_variant", "geography", "geometry", "hierarchyid"])]

/-- The kind whose names include the given one. -/
def lookup (table : List (ValueKind × List String)) (name : String) : Option ValueKind :=
  (table.find? fun (_, names) => names.contains name).map Prod.fst

/-- The kind of a PostgreSQL type in normal form. -/
def postgresKind? (name : String) : Option ValueKind := lookup postgresTable name

/-- The kind of a SQL Server type in normal form. -/
def sqlServerKind? (name : String) : Option ValueKind := lookup sqlServerTable name

/-- The value type of a PostgreSQL type. -/
def postgres? (nativeType : String) : Option ValueType :=
  match arrayElement? nativeType with
  | some element => (postgresKind? element).map fun kind => .arrayOf (.of kind)
  | none => (postgresKind? (normalize nativeType)).map .of

/-- The value type of a SQL Server type. -/
def sqlServer? (nativeType : String) : Option ValueType :=
  (sqlServerKind? (normalize nativeType)).map .of

/-! ## Special types -/

/-- Names of PostgreSQL's times of day. -/
def postgresTimes : List String :=
  ["time", "time without time zone", "timetz", "time with time zone"]

/-- The type is a date without a time of day. -/
def isDate (nativeType : String) : Bool := normalize nativeType == "date"

/-- The type is a row-version stamp. -/
def isRowVersion (nativeType : String) : Bool :=
  ["rowversion", "timestamp"].contains (normalize nativeType)

end SchemaModel.NativeType
