import SchemaModel.Catalog.Offline
import SchemaModel.Catalog.Postgres
import SchemaModel.Proofs.Catalog.KeyGroups
import Mathlib.Data.List.Basic

/-!
# `SchemaModel.Proofs.Catalog.Cells` — rows of a catalog as a PostgreSQL server sends them

A server sends rows of cells, in the order in which its statement selects them. Here every row of a
catalog is written as such cells, and read back from them.

## Contents
- `Cell.ofText?`, `Cell.ofInt?`: values that may be missing.
- **Rows.** For every row `…Cells`, and that its reader gives the row back: `leftInverse_tableRow` and
  so on.
- **Answers of several rows.** `keyConstraintCells`, a row for each column of a key; `Outputs`, the
  outputs of a routine, whose places are not read; `userTypeCells`, a row for each attribute and
  one row where there is none.
-/

namespace SchemaModel

/-! ## Values that may be missing -/

namespace Cell

/-- A text that may be missing. -/
def ofText? : Option String → Cell
  | some value => .text value
  | none => .null

/-- A number that may be missing. -/
def ofInt? : Option Int → Cell
  | some value => .int value
  | none => .null

end Cell

namespace Cells

variable {row : Cells} {place : Nat}

theorem text?_of {o : Option String} (h : row.cell place = .ofText? o) : row.text? place = o := by
  unfold text?
  rw [h]
  cases o <;> rfl

theorem int?_of {o : Option Int} (h : row.cell place = .ofInt? o) : row.int? place = o := by
  unfold int?
  rw [h]
  cases o <;> rfl

end Cells

namespace Postgres

open Function

/-! ## Tables -/

/-- A table as a server sends it. -/
def tableCells (row : TableRow) : Cells :=
  [.text row.schema, .text row.name, .ofText? row.description]

theorem leftInverse_tableRow : LeftInverse tableRow tableCells := by
  intro row
  have hdescription : (tableCells row).text? 2 = row.description := Cells.text?_of rfl
  unfold tableRow
  rw [hdescription]
  rfl

/-- A column as a server sends it. -/
def columnCells (row : ColumnRow) : Cells :=
  [.text row.name, .int row.ordinal, .text row.nativeType, .ofInt? row.size, .ofInt? row.precision,
    .ofInt? row.scale, .ofText? row.description]

theorem leftInverse_columnRow : LeftInverse columnRow columnCells := by
  intro row
  have hsize : (columnCells row).int? 3 = row.size := Cells.int?_of rfl
  have hprecision : (columnCells row).int? 4 = row.precision := Cells.int?_of rfl
  have hscale : (columnCells row).int? 5 = row.scale := Cells.int?_of rfl
  have hdescription : (columnCells row).text? 6 = row.description := Cells.text?_of rfl
  unfold columnRow
  rw [hsize, hprecision, hscale, hdescription]
  rfl

/-- The flags of a column as a server sends them. -/
def columnFlagsCells (row : ColumnFlagsRow) : Cells :=
  [.text row.name, .bool row.isNullable, .bool row.isIdentity, .bool row.isComputed,
    .ofText? row.defaultValue]

theorem leftInverse_columnFlagsRow : LeftInverse columnFlagsRow columnFlagsCells := by
  intro row
  have hdefault : (columnFlagsCells row).text? 4 = row.defaultValue := Cells.text?_of rfl
  unfold columnFlagsRow
  rw [hdefault]
  rfl

/-- A column of a key as a server sends it. -/
def keyColumnCells (row : KeyColumn) : Cells :=
  [.text row.name, .text row.constraintType, .text row.column]

theorem leftInverse_keyColumn : LeftInverse keyColumn keyColumnCells := fun _ => rfl

/-- Key constraints as a server sends them, one row a column. -/
def keyConstraintCells (constraints : List KeyConstraintRow) : List Cells :=
  (constraints.flatMap KeyConstraintRow.keyColumns).map keyColumnCells

theorem groupKeys_keyConstraintCells {constraints : List KeyConstraintRow}
    (h : KeyConstraintRow.Named constraints) :
    groupKeys ((keyConstraintCells constraints).map keyColumn) = constraints := by
  unfold keyConstraintCells
  rw [leftInverse_keyColumn.list_map, groupKeys_keyColumns h]

/-- A pair of columns of a foreign key as a server sends it. -/
def foreignKeyCells (row : ForeignKeyRow) : Cells :=
  [.text row.name, .text row.column, .text row.refSchema, .text row.refTable, .text row.refColumn]

theorem leftInverse_foreignKeyRow : LeftInverse foreignKeyRow foreignKeyCells := fun _ => rfl

/-! ## Routines -/

/-- The letter for a kind of routine. -/
def routineCode : RoutineKind → String
  | .function => "f"
  | .procedure => "p"

/-- A routine as a server sends it. -/
def routineCells (row : RoutineRow) : Cells :=
  [.text row.schema, .text row.name, .text row.specificName, .text (routineCode row.kind),
    .ofText? row.returnType, .bool row.returnsSet, .ofText? row.resultSignature,
    .ofText? row.description]

theorem leftInverse_routineRow : LeftInverse routineRow routineCells := by
  intro row
  have hkind : (if (routineCells row).text 3 == "p" then RoutineKind.procedure else .function) =
      row.kind := by
    change (if routineCode row.kind == "p" then RoutineKind.procedure else .function) = row.kind
    cases row.kind with
    | function => rfl
    | procedure => rfl
  have hreturn : (routineCells row).text? 4 = row.returnType := Cells.text?_of rfl
  have hsignature : (routineCells row).text? 6 = row.resultSignature := Cells.text?_of rfl
  have hdescription : (routineCells row).text? 7 = row.description := Cells.text?_of rfl
  unfold routineRow
  rw [hkind, hreturn, hsignature, hdescription]
  rfl

/-- An input as a server sends it. -/
def parameterCells (row : ParameterRow) : Cells :=
  [.text row.name, .int row.ordinal, .text row.nativeType, .ofText? row.typeSchema,
    .bool row.isUserDefined, .bool row.hasDefault, .bool row.isOutput]

theorem leftInverse_parameterRow : LeftInverse parameterRow parameterCells := by
  intro row
  have hschema : (parameterCells row).text? 3 = row.typeSchema := Cells.text?_of rfl
  unfold parameterRow
  rw [hschema]
  rfl

/-- An output as a server sends it, with its place among the parameters. -/
def outputCells (place : Int) (column : ResultColumnRow) : Cells :=
  [.text column.name, .int place, .text column.nativeType, .ofInt? column.size]

/-- The cells are those of an output in some place. -/
def Outputs (column : ResultColumnRow) (cells : Cells) : Prop :=
  ∃ place, cells = outputCells place column

/-- The columns are counted from a number on, and each may be null. -/
def CountedFrom (n : Nat) (columns : List ResultColumnRow) : Prop :=
  ∀ p ∈ columns.zipIdx n, p.1.ordinal = p.2 ∧ p.1.isNullable = true

instance (n : Nat) (columns : List ResultColumnRow) : Decidable (CountedFrom n columns) :=
  inferInstanceAs (Decidable (∀ p ∈ _, _))

/-- Outputs are columns in the order in which they are sent. -/
theorem outputRowsFrom_eq {n : Nat} {columns : List ResultColumnRow} {rows : List Cells}
    (hrows : List.Forall₂ Outputs columns rows) (hcounted : CountedFrom n columns) :
    outputRowsFrom n rows = columns := by
  induction hrows generalizing n with
  | nil => rfl
  | @cons column cells _ _ hcells _ ih =>
      unfold CountedFrom at hcounted
      rw [List.zipIdx_cons, List.forall_mem_cons] at hcounted
      obtain ⟨⟨hordinal, hnullable⟩, hrest⟩ := hcounted
      obtain ⟨place, rfl⟩ := hcells
      have hsize : (outputCells place column).int? 3 = column.size := Cells.int?_of rfl
      unfold outputRowsFrom
      rw [hsize, ← Int.natCast_succ, ih hrest, ← hordinal, ← hnullable]
      rfl

/-! ## User-defined types -/

/-- The letter for a kind of user-defined type. -/
def userTypeCode : UserTypeKind → String
  | .composite => "c"
  | .enum => "e"
  | .domain => "d"

theorem ofCode_userTypeCode (kind : UserTypeKind) : UserTypeKind.ofCode (userTypeCode kind) = kind := by
  cases kind with
  | composite => rfl
  | enum => rfl
  | domain => rfl

/-- What is said about a user-defined type in each of its rows. -/
def typeCells (t : UserTypeRow) : Cells :=
  [.ofText? t.description, .text (userTypeCode t.kind), .ofText? t.baseType]

/-- An attribute of a user-defined type as a server sends it. -/
def attributeCells (t : UserTypeRow) (column : ResultColumnRow) : Cells :=
  [.text column.name, .int column.ordinal, .text column.nativeType, .bool column.isNullable,
    .ofInt? column.size] ++ typeCells t

/-- A user-defined type as a server sends it: one row an attribute, and one row without it where there
are no attributes. -/
def userTypeCells (t : UserTypeRow) : List Cells :=
  if t.columns = [] then [[.null, .null, .null, .null, .null] ++ typeCells t]
  else t.columns.map (attributeCells t)

theorem attributeRow?_attributeCells (t : UserTypeRow) (column : ResultColumnRow) :
    attributeRow? (attributeCells t column) = some column := by
  have hsize : (attributeCells t column).int? 4 = column.size := Cells.int?_of rfl
  unfold attributeRow?
  rw [hsize]
  rfl

theorem filterMap_attributeRow? (t : UserTypeRow) :
    (userTypeCells t).filterMap attributeRow? = t.columns := by
  unfold userTypeCells
  split
  next hnone =>
      rw [hnone]
      rfl
  next =>
      rw [List.filterMap_map]
      have hread : attributeRow? ∘ attributeCells t = some := funext (attributeRow?_attributeCells t)
      rw [hread, List.filterMap_some]

/-- Every row says what kind of type it is, what it is derived from and what is said about it. -/
theorem mem_userTypeCells {t : UserTypeRow} {cells : Cells} (h : cells ∈ userTypeCells t) :
    cells.text? 5 = t.description ∧ cells.text 6 = userTypeCode t.kind ∧
      cells.text? 7 = t.baseType := by
  unfold userTypeCells at h
  split at h
  next =>
      rw [List.mem_singleton] at h
      rw [h]
      exact ⟨Cells.text?_of rfl, rfl, Cells.text?_of rfl⟩
  next =>
      obtain ⟨column, _, rfl⟩ := List.mem_map.1 h
      exact ⟨Cells.text?_of rfl, rfl, Cells.text?_of rfl⟩

theorem userTypeRow?_userTypeCells (t : UserTypeRow) :
    userTypeRow? t.schema t.name (userTypeCells t) = some t := by
  have hcolumns := filterMap_attributeRow? t
  cases hrows : userTypeCells t with
  | nil =>
      unfold userTypeCells at hrows
      split at hrows
      next => cases hrows
      next hsome => exact absurd (List.map_eq_nil_iff.1 hrows) hsome
  | cons first rest =>
      obtain ⟨hdescription, hkind, hbase⟩ := mem_userTypeCells (hrows ▸ List.mem_cons_self)
      rw [hrows] at hcolumns
      unfold userTypeRow?
      rw [hcolumns]
      dsimp only
      rw [hdescription, hkind, hbase, ofCode_userTypeCode]

end Postgres

end SchemaModel
