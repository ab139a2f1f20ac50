import SchemaModel.Catalog.Rows

/-!
# `SchemaModel.Catalog.Reader` — asking a catalog

A catalog answers questions about tables, routines and types, and runs statements. What it needs to
remember between the answers (statements it ran, a connection) is its own state.

## Contents
- `Reading`: an answer that may fail and may change the catalog's state.
- `Catalog`: the questions, as one record over the state.
-/

namespace SchemaModel

/-- An answer of a catalog with state `σ`. -/
abbrev Reading (σ α : Type) := ExceptT Fault (StateM σ) α

/-- A database catalog with state `σ`. -/
structure Catalog (σ : Type) where
  /-- The engine whose catalog it is. -/
  engine : Engine
  /-- Base tables outside the given schemas. -/
  tables : List String → Reading σ (List TableRow)
  /-- The columns of a table, in order. -/
  columns : TableRow → Reading σ (List ColumnRow)
  /-- How the columns of a table get their values. -/
  columnFlags : TableRow → Reading σ (List ColumnFlagsRow)
  /-- The primary key and unique constraints of a table. -/
  keyConstraints : TableRow → Reading σ (List KeyConstraintRow)
  /-- The foreign keys of a table, one row a pair of columns. -/
  foreignKeys : TableRow → Reading σ (List ForeignKeyRow)
  /-- Routines outside the given schemas. -/
  routines : List String → Reading σ (List RoutineRow)
  /-- The inputs of a routine, in order. -/
  parameters : RoutineRow → Reading σ (List ParameterRow)
  /-- The columns that a routine returns; none where its return type tells. -/
  resultColumns : RoutineRow → Reading σ (List ResultColumnRow)
  /-- A user-defined type by schema and name. -/
  userType : String → String → Reading σ (Option UserTypeRow)
  /-- Runs a statement and counts the rows it touched. -/
  execute : String → Reading σ Nat
  /-- Checks that the database answers. -/
  testConnection : Reading σ Unit
  /-- Gives up the connection. -/
  close : Reading σ Unit

end SchemaModel
