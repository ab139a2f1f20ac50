import SchemaModel.Engine

/-!
# `SchemaModel.Catalog.Rows` — what a catalog says

The rows that a database catalog answers with, before anything is made of them.

## Contents
- **Tables.** `TableRow`, `ColumnRow`, `ColumnFlagsRow`, `KeyConstraintRow`, `ForeignKeyRow`.
- **Routines.** `RoutineRow`, `ParameterRow`, `ResultColumnRow`.
- **User-defined types.** `UserTypeKind`, `UserTypeRow`.
-/

namespace SchemaModel

/-! ## Tables -/

/-- A base table with its comment. -/
structure TableRow where
  schema : String
  name : String
  description : Option String
  deriving DecidableEq, Repr, Inhabited

/-- A schema and a name, joined by a point. -/
def qualifiedText (schema name : String) : String := schema ++ "." ++ name

/-- The table's qualified name. -/
def TableRow.fullName (row : TableRow) : String := qualifiedText row.schema row.name

/-- A column: its type and size. No size means an unbounded one. -/
structure ColumnRow where
  name : String
  ordinal : Int
  nativeType : String
  size : Option Int
  precision : Option Int
  scale : Option Int
  description : Option String
  deriving DecidableEq, Repr, Inhabited

/-- How a column gets its values. -/
structure ColumnFlagsRow where
  name : String
  isNullable : Bool
  isIdentity : Bool
  isComputed : Bool
  defaultValue : Option String
  deriving DecidableEq, Repr, Inhabited

/-- The kinds of key constraints. -/
inductive KeyKind where
  | primary
  | unique
  deriving DecidableEq, Repr, Inhabited

namespace KeyKind

/-- The kinds by their words in records. -/
def table : List (String × KeyKind) := [("primary", .primary), ("unique", .unique)]

/-- The word for the kind in records. -/
def word : KeyKind → String
  | .primary => "primary"
  | .unique => "unique"

/-- The kind of a constraint as the catalog names it, in any letter case. -/
def ofConstraintType? (s : String) : Option KeyKind :=
  let key := Text.uppercase s
  if key == "PRIMARY KEY" then some .primary
  else if key == "UNIQUE" then some .unique
  else none

end KeyKind

/-- A primary key or unique constraint with its columns in order. -/
structure KeyConstraintRow where
  name : String
  kind : KeyKind
  columns : List String
  deriving DecidableEq, Repr, Inhabited

/-- One pair of columns of a foreign key. -/
structure ForeignKeyRow where
  name : String
  column : String
  refSchema : String
  refTable : String
  refColumn : String
  deriving DecidableEq, Repr, Inhabited

/-! ## Routines -/

namespace RoutineKind

/-- The kinds by their words in records. -/
def table : List (String × RoutineKind) := [("function", .function), ("procedure", .procedure)]

/-- The word for the kind in records. -/
def word : RoutineKind → String
  | .function => "function"
  | .procedure => "procedure"

end RoutineKind

/-- A stored routine. The specific name tells overloads apart. -/
structure RoutineRow where
  schema : String
  name : String
  specificName : String
  kind : RoutineKind
  returnType : Option String
  returnsSet : Bool
  resultSignature : Option String
  description : Option String
  deriving DecidableEq, Repr, Inhabited

/-- The routine's qualified name. -/
def RoutineRow.fullName (row : RoutineRow) : String := qualifiedText row.schema row.name

/-- An input of a routine. -/
structure ParameterRow where
  name : String
  ordinal : Int
  nativeType : String
  typeSchema : Option String
  isUserDefined : Bool
  hasDefault : Bool
  isOutput : Bool
  deriving DecidableEq, Repr, Inhabited

/-- A column of a routine's rows or of a composite type. -/
structure ResultColumnRow where
  name : String
  ordinal : Int
  nativeType : String
  isNullable : Bool
  size : Option Int
  deriving DecidableEq, Repr, Inhabited

/-! ## User-defined types -/

/-- How a user-defined type holds its values: as columns, as labels, or as a constrained alias. -/
inductive UserTypeKind where
  | composite
  | enum
  | domain
  deriving DecidableEq, Repr, Inhabited

namespace UserTypeKind

/-- The kinds by their words in records. -/
def table : List (String × UserTypeKind) :=
  [("composite", .composite), ("enum", .enum), ("domain", .domain)]

/-- The word for the kind in records. -/
def word : UserTypeKind → String
  | .composite => "composite"
  | .enum => "enum"
  | .domain => "domain"

/-- The kind for PostgreSQL's one-letter code. -/
def ofCode (code : String) : UserTypeKind :=
  if code == "e" then .enum else if code == "d" then .domain else .composite

end UserTypeKind

/-- A user-defined type; enums and domains have no columns. -/
structure UserTypeRow where
  schema : String
  name : String
  kind : UserTypeKind
  baseType : Option String
  description : Option String
  columns : List ResultColumnRow
  deriving DecidableEq, Repr, Inhabited

end SchemaModel
