import SchemaModel.Catalog.Reader
import SchemaModel.Catalog.Snapshot
import SchemaModel.Catalog.TableSignature

/-!
# `SchemaModel.Catalog.Offline` — a catalog that answers from a snapshot

The offline catalog looks things up the way the snapshot's engine compares names. It never fails,
and the only state it keeps is the list of statements it was asked to run.

## Contents
- **Look-up.** `table?`, `routine?`, `userType?` find the first entry under a name;
  `isExcluded` says that a schema is left out.
- **Answers.** `tableRows`, `routineRows`, `resultColumnsOf`: what the catalog says, as plain
  functions of the snapshot.
- `catalog`: the snapshot as a catalog whose state is the statements run so far.
-/

namespace SchemaModel.CatalogSnapshot

/-! ## Look-up -/

/-- The schema is one of those left out. -/
def isExcluded (s : CatalogSnapshot) (excluded : List String) (schema : String) : Bool :=
  excluded.any fun e => s.engine.namesEqual e schema

/-- The first stored table that a row names. -/
def table? (s : CatalogSnapshot) (row : TableRow) : Option StoredTable :=
  s.tables.find? fun t =>
    s.engine.namesEqual t.schema row.schema && s.engine.namesEqual t.name row.name

/-- The first stored routine that a row names; specific names are compared exactly. -/
def routine? (s : CatalogSnapshot) (row : RoutineRow) : Option StoredRoutine :=
  s.routines.find? fun r =>
    s.engine.namesEqual r.schema row.schema && s.engine.namesEqual r.name row.name &&
      r.effectiveName == row.specificName

/-- The first user-defined type under a name. -/
def userType? (s : CatalogSnapshot) (schema name : String) : Option UserTypeRow :=
  s.userTypes.find? fun t => s.engine.namesEqual t.schema schema && s.engine.namesEqual t.name name

/-! ## Answers -/

/-- The tables outside the excluded schemas. -/
def tableRows (s : CatalogSnapshot) (excluded : List String) : List TableRow :=
  (s.tables.filter fun t => !s.isExcluded excluded t.schema).map StoredTable.row

/-- The routines outside the excluded schemas. -/
def routineRows (s : CatalogSnapshot) (excluded : List String) : List RoutineRow :=
  (s.routines.filter fun r => !s.isExcluded excluded r.schema).map StoredRoutine.row

/-- The columns that a stored routine returns: those written down, else for PostgreSQL those of its
signature. -/
def storedResultColumns (s : CatalogSnapshot) (r : StoredRoutine) : List ResultColumnRow :=
  if !r.resultColumns.isEmpty then r.resultColumns
  else match s.engine with
    | .postgres => (r.resultSignature.bind TableSignature.parse?).getD []
    | .sqlServer => []

/-- The columns that a routine returns. -/
def resultColumnsOf (s : CatalogSnapshot) (row : RoutineRow) : List ResultColumnRow :=
  match s.routine? row with
  | some r => s.storedResultColumns r
  | none => []

/-! ## The catalog -/

/-- Something of the table that a row names, or nothing. -/
def ofTable {α : Type} (s : CatalogSnapshot) (row : TableRow) (part : StoredTable → List α) :
    List α :=
  match s.table? row with
  | some t => part t
  | none => []

/-- The snapshot as a catalog; its state is the list of statements run. -/
def catalog (s : CatalogSnapshot) : Catalog (List String) where
  engine := s.engine
  tables := fun excluded => pure (s.tableRows excluded)
  columns := fun row => pure (s.ofTable row StoredTable.columnRows)
  columnFlags := fun row => pure (s.ofTable row StoredTable.flagsRows)
  keyConstraints := fun row => pure (s.ofTable row StoredTable.constraints)
  foreignKeys := fun row => pure (s.ofTable row StoredTable.foreignKeys)
  routines := fun excluded => pure (s.routineRows excluded)
  parameters := fun row => pure <|
    match s.routine? row with
    | some r => r.parameterRows
    | none => []
  resultColumns := fun row => pure (s.resultColumnsOf row)
  userType := fun schema name => pure (s.userType? schema name)
  execute := fun sql => do
    modify fun executed => executed ++ [sql]
    pure 0
  testConnection := pure ()
  close := pure ()

end SchemaModel.CatalogSnapshot
