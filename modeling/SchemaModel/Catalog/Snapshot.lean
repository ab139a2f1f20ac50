import SchemaModel.Catalog.Rows

/-!
# `SchemaModel.Catalog.Snapshot` — a catalog written down

A snapshot describes a database the way one would write it down: tables with their columns and
keys, routines with their inputs, and user-defined types.

## Contents
- `StoredColumn`, `StoredTable`, `StoredParameter`, `StoredRoutine`: the parts.
- `CatalogSnapshot`: a whole database.
- The rows that each part answers with: `StoredTable.row`, `columnRows`, `flagsRows`,
  `StoredRoutine.row`, `parameterRows`.
-/

namespace SchemaModel

/-! ## Parts -/

/-- A column with its flags. -/
structure StoredColumn where
  name : String
  nativeType : String
  size : Option Int
  precision : Option Int
  scale : Option Int
  isNullable : Bool
  isIdentity : Bool
  isComputed : Bool
  defaultValue : Option String
  description : Option String
  deriving DecidableEq, Repr, Inhabited

/-- A table with its columns and keys. -/
structure StoredTable where
  schema : String
  name : String
  description : Option String
  columns : List StoredColumn
  constraints : List KeyConstraintRow
  foreignKeys : List ForeignKeyRow
  deriving DecidableEq, Repr, Inhabited

/-- An input of a routine. -/
structure StoredParameter where
  name : String
  nativeType : String
  typeSchema : Option String
  isUserDefined : Bool
  hasDefault : Bool
  isOutput : Bool
  deriving DecidableEq, Repr, Inhabited

/-- A routine with its inputs and what it returns. -/
structure StoredRoutine where
  schema : String
  name : String
  specificName : Option String
  kind : RoutineKind
  returnType : Option String
  returnsSet : Bool
  resultSignature : Option String
  description : Option String
  parameters : List StoredParameter
  resultColumns : List ResultColumnRow
  deriving DecidableEq, Repr, Inhabited

/-- A database, written down. -/
structure CatalogSnapshot where
  engine : Engine
  tables : List StoredTable
  routines : List StoredRoutine
  userTypes : List UserTypeRow
  deriving DecidableEq, Repr, Inhabited

/-- A database with nothing in it. -/
def CatalogSnapshot.blank (engine : Engine) : CatalogSnapshot := ⟨engine, [], [], []⟩

/-! ## Rows -/

namespace StoredTable

/-- The table without its contents. -/
def row (t : StoredTable) : TableRow := ⟨t.schema, t.name, t.description⟩

/-- The row of a column at a place. -/
def columnRow (ordinal : Int) (c : StoredColumn) : ColumnRow :=
  ⟨c.name, ordinal, c.nativeType, c.size, c.precision, c.scale, c.description⟩

/-- The rows of columns counted from a number on. -/
def columnRowsFrom (ordinal : Int) : List StoredColumn → List ColumnRow
  | [] => []
  | c :: rest => columnRow ordinal c :: columnRowsFrom (ordinal + 1) rest

/-- The columns, counted from one. -/
def columnRows (t : StoredTable) : List ColumnRow := columnRowsFrom 1 t.columns

/-- The flags of a column. -/
def flagsRow (c : StoredColumn) : ColumnFlagsRow :=
  ⟨c.name, c.isNullable, c.isIdentity, c.isComputed, c.defaultValue⟩

/-- The flags of the columns. -/
def flagsRows (t : StoredTable) : List ColumnFlagsRow := t.columns.map flagsRow

end StoredTable

namespace StoredRoutine

/-- The name that tells overloads apart: the specific one, else the plain one. -/
def effectiveName (r : StoredRoutine) : String := r.specificName.getD r.name

/-- The routine without its inputs and columns. -/
def row (r : StoredRoutine) : RoutineRow :=
  ⟨r.schema, r.name, r.effectiveName, r.kind, r.returnType, r.returnsSet, r.resultSignature,
    r.description⟩

/-- The row of an input at a place. -/
def parameterRow (ordinal : Int) (p : StoredParameter) : ParameterRow :=
  ⟨p.name, ordinal, p.nativeType, p.typeSchema, p.isUserDefined, p.hasDefault, p.isOutput⟩

/-- The rows of inputs counted from a number on. -/
def parameterRowsFrom (ordinal : Int) : List StoredParameter → List ParameterRow
  | [] => []
  | p :: rest => parameterRow ordinal p :: parameterRowsFrom (ordinal + 1) rest

/-- The inputs, counted from one. -/
def parameterRows (r : StoredRoutine) : List ParameterRow := parameterRowsFrom 1 r.parameters

end StoredRoutine

end SchemaModel
