import SchemaModel.Inspection.Progress

/-!
# `SchemaModel.Inspection.Tables` — tables into application types

Every table becomes a type with typed fields and key constraints. Foreign keys are resolved once
all tables are loaded, so the order of declaration does not matter.

## Contents
- **Fields.** `columnField` makes a field of a column, `applyFlags` adds what is known about its
  values, `constraintNames` and `applyConstraint` resolve a key constraint.
- `loadTable`: the three passes over a table.
- **References.** `resolveForeignKey` points a field at its target; `resolveAll` does so for every
  table.
- `loadTypes`: the whole stage.
-/

namespace SchemaModel.Inspection

open Inspect

variable {σ : Type}

/-! ## Fields -/

/-- The field of a column, nullable until more is known, with its warnings. -/
def columnField (engine : Engine) (table : String) (row : ColumnRow) : Field × List Warning :=
  let owner := qualifiedText table row.name
  let valueType := engine.valueType? row.nativeType
  let (overrides, warnings) := Attributes.parse row.description owner
  let field := ({ Field.blank row.name row.ordinal row.nativeType with
    valueType := valueType }).setRequired false
  ({ field with
      size := row.size
      precision := row.precision
      scale := row.scale
      attributes := overrides },
    (if valueType.isNone then [.unmappedColumn owner row.nativeType] else []) ++ warnings)

/-- The fields of columns, with their warnings in order. -/
def columnFields (engine : Engine) (table : String) (rows : List ColumnRow) :
    List Field × List Warning :=
  let made := rows.map (columnField engine table)
  (made.map Prod.fst, made.flatMap Prod.snd)

/-- The first field under a name. -/
def findField? (engine : Engine) (fields : List Field) (name : String) : Option Field :=
  fields.find? fun f => engine.namesEqual f.name name

/-- The fields with the first one under a name changed. -/
def modifyField (engine : Engine) (fields : List Field) (name : String) (change : Field → Field) :
    List Field :=
  modifyFirst (fun f => engine.namesEqual f.name name) change fields

/-- A field with what is known about its values. -/
def withFlags (engine : Engine) (row : ColumnFlagsRow) (f : Field) : Field :=
  { f.setRequired !row.isNullable with
    isComputed := row.isComputed
    isGenerated := row.isIdentity || row.defaultValue.any engine.isGeneratedDefault
    defaultValue := row.defaultValue }

/-- Adds what is known about the values of columns; a row for an unknown column is reported. -/
def applyFlags (engine : Engine) (table : String) :
    List Field → List ColumnFlagsRow → List Field × List Warning
  | fields, [] => (fields, [])
  | fields, row :: rest =>
    match findField? engine fields row.name with
    | none =>
      let (fields, warnings) := applyFlags engine table fields rest
      (fields, .flagsOfUnknownColumn table row.name :: warnings)
    | some _ =>
      applyFlags engine table (modifyField engine fields row.name (withFlags engine row)) rest

/-- The names of the fields that a key constraint's columns denote. -/
def constraintNames (engine : Engine) (table constraint : String) (fields : List Field) :
    List String → Outcome (List String)
  | [] => .ok []
  | column :: rest =>
    match findField? engine fields column with
    | none => .error (.missingField table column ("key constraint " ++ constraint))
    | some f => (constraintNames engine table constraint fields rest).map (f.name :: ·)

/-- Marks the fields under the names of a primary key. -/
def markKeys (engine : Engine) (fields : List Field) (columns : List String) : List Field :=
  columns.foldl (fun fields column =>
    modifyField engine fields column fun f => { f with isKey := true }) fields

/-- Adds a key constraint to a type. -/
def applyConstraint (engine : Engine) (table : String) (t : ApplicationType)
    (row : KeyConstraintRow) : Outcome ApplicationType :=
  (constraintNames engine table row.name t.fields row.columns).map fun names =>
    { t with
      fields := if row.kind = .primary then markKeys engine t.fields row.columns else t.fields
      constraints := t.constraints ++ [⟨row.name, row.kind, names⟩] }

/-- Adds key constraints to a type, in order. -/
def applyConstraints (engine : Engine) (table : String) (t : ApplicationType) :
    List KeyConstraintRow → Outcome ApplicationType
  | [] => .ok t
  | row :: rest =>
    match applyConstraint engine table t row with
    | .ok t => applyConstraints engine table t rest
    | .error e => .error e

/-- The type of a table: its columns, then what is known about their values, then its keys. -/
def loadTable (catalog : Catalog σ) (row : TableRow) : Inspect σ ApplicationType := do
  let table := row.fullName
  let (overrides, warnings) := Attributes.parse row.description table
  warnAll warnings
  let (fields, warnings) := columnFields catalog.engine table (← ask (catalog.columns row))
  warnAll warnings
  let (fields, warnings) :=
    applyFlags catalog.engine table fields (← ask (catalog.columnFlags row))
  warnAll warnings
  let constraints ← ask (catalog.keyConstraints row)
  lift (applyConstraints catalog.engine table ⟨row.name, row.schema, fields, [], overrides⟩
    constraints)

/-- Loads tables one after the other and remembers their foreign keys. -/
def loadTables (catalog : Catalog σ) :
    List TableRow → Inspect σ (List (TypeKey × List ForeignKeyRow))
  | [] => return []
  | row :: rest => do
    let t ← loadTable catalog row
    let foreignKeys ← ask (catalog.foreignKeys row)
    -- References wait until every table is loaded: a table may refer to a later one.
    change fun d => { d with types := d.types ++ [t] }
    return (t.key, foreignKeys) :: (← loadTables catalog rest)

/-! ## References -/

/-- Points the field of a foreign key at its target. A target outside the domain is passed over
with a warning; a column missing on either side is a fault. -/
def resolveForeignKey (d : Domain) (owner : TypeKey) (fk : ForeignKeyRow) :
    Outcome (Domain × List Warning) :=
  let targetKey : TypeKey := ⟨fk.refSchema, fk.refTable⟩
  match d.findType? targetKey with
  | none => .ok (d, [.foreignKeySkipped fk.name owner.text targetKey.text])
  | some target =>
    match findField? d.engine target.fields fk.refColumn with
    | none =>
      .error (.missingField targetKey.text fk.refColumn
        ("foreign key " ++ fk.name ++ " on " ++ owner.text))
    | some targetField =>
      -- The owner is looked up by key, so of two tables under one key the first is meant.
      match (d.findType? owner).bind fun t => findField? d.engine t.fields fk.column with
      | none => .error (.missingField owner.text fk.column ("foreign key " ++ fk.name))
      | some _ =>
        .ok (d.modifyType owner fun t =>
          { t with
            fields := modifyField d.engine t.fields fk.column fun f =>
              { f with references := some ⟨target.key, targetField.name⟩ } }, [])

/-- Resolves the foreign keys of one table. -/
def resolveForeignKeys (owner : TypeKey) : List ForeignKeyRow → Inspect σ Unit
  | [] => return ()
  | fk :: rest => do
    let (d, warnings) ← lift (resolveForeignKey (← getDomain) owner fk)
    setDomain d
    warnAll warnings
    resolveForeignKeys owner rest

/-- Resolves the foreign keys of every table. -/
def resolveAll : List (TypeKey × List ForeignKeyRow) → Inspect σ Unit
  | [] => return ()
  | (owner, foreignKeys) :: rest => do
    resolveForeignKeys owner foreignKeys
    resolveAll rest

/-! ## The stage -/

/-- A domain without content, as an engine and the settings want it. -/
def blankDomain (engine : Engine) (settings : Settings) : Domain :=
  .blank engine (settings.namingFor engine) (settings.namespaceFor engine)

/-- Loads every table outside the excluded schemas into a blank domain and resolves the foreign
keys. -/
def loadTypes (catalog : Catalog σ) (settings : Settings) : Inspect σ Unit := do
  setDomain (blankDomain catalog.engine settings)
  let rows ← ask (catalog.tables settings.excludedSchemas)
  let pending ← loadTables catalog rows
  resolveAll pending

end SchemaModel.Inspection
