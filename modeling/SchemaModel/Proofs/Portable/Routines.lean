import SchemaModel.Proofs.Portable.Tables

/-!
# `SchemaModel.Proofs.Portable.Routines` — routines that both engines can hold

A portable database is a portable schema with routines. A routine has one name and one list of
output columns, and its comment says the same for both engines, with the names in it spelled as each
engine spells them. How an engine calls its inputs and what else it declares is up to the engine.

## Contents
- `OutputColumn`, `Input`, `Output`, `Annotation`, `Routine`: the parts.
- `Database`: a schema with routines, whose names are separated wherever engines compare them.
- `Database.snapshot`: the database as written down for an engine.
- **Look-up.** `Database.contents`: of two routines that are known by the same names, the first
  one's inputs and columns count.
-/

namespace SchemaModel.Portable

open Inspection Offline

/-! ## Parts -/

/-- A column that a routine returns. -/
structure OutputColumn where
  name : Name
  order : Int
  type : SharedType
  isNullable : Bool
  size : Option Int

/-- An input. Each engine may have its own name for it. -/
structure Input where
  name : Engine → String
  type : SharedType
  hasDefault : Bool
  isOutput : Bool

/-- What a routine declares about its result besides columns. -/
structure Declaration where
  returnType : Option String
  returnsSet : Bool
  signature : Option String

/-- What a routine returns: rows with columns, whatever else it declares; or values of a shared
type, or nothing. -/
inductive Output where
  | rows (first : OutputColumn) (rest : List OutputColumn) (declares : Engine → Declaration)
  | values (type : Option SharedType) (returnsSet : Bool)

namespace Output

/-- The columns, of which values have none. -/
def columns : Output → List OutputColumn
  | .rows first rest _ => first :: rest
  | .values _ _ => []

/-- The declaration for an engine. -/
def declares (engine : Engine) : Output → Declaration
  | .rows _ _ declares => declares engine
  | .values type returnsSet => ⟨type.map fun t => t.native engine, returnsSet, none⟩

end Output

/-- A table named in a comment, with its schema or without. -/
structure Mention where
  name : Name
  isQualified : Bool
  named : isQualified = true → name ≠ []

/-- The text of the mention for an engine. -/
def Mention.text (m : Mention) (engine : Engine) : String :=
  if m.isQualified then qualifiedText engine.defaultNamespace (m.name.on engine)
  else m.name.on engine

/-- A comment for each engine, in which both find the same: the table that a routine is about, the
name of its result type, and whether it yields a single row. -/
structure Annotation where
  comment : Engine → Option String
  about : Option Mention
  result : Option Name
  single : Bool
  saysAbout : ∀ engine, (overridesIn (comment engine)).bind Attributes.applicationType? =
    about.map fun m => m.text engine
  saysResult : ∀ engine, (overridesIn (comment engine)).bind Attributes.resultTypeName? =
    result.map fun name => name.on engine
  saysSingle : ∀ engine, (overridesIn (comment engine)).any Attributes.singleResult = single

/-- A routine. Each engine may have its own specific name for it, which tells overloads apart. -/
structure Routine where
  name : Name
  specific : Engine → Option String
  kind : Engine → RoutineKind
  annotation : Annotation
  inputs : List Input
  output : Output

namespace Routine

/-- The name that tells overloads apart in an engine. -/
def effective (r : Routine) (engine : Engine) : String :=
  (r.specific engine).getD (r.name.on engine)

/-- The name of the result type: the one that the annotation gives, else the conventional one. -/
def resultName (r : Routine) : Name := r.annotation.result.getD (r.name ++ [.result])

/-- The table that the annotation names, whether there is one or not. -/
def mentioned? (r : Routine) : Option Name := r.annotation.about.map Mention.name

/-- An engine knows the two routines by the same names. -/
def SameNames (engine : Engine) (r q : Routine) : Prop :=
  r.name = q.name ∧ r.effective engine = q.effective engine

instance (engine : Engine) (r q : Routine) : Decidable (r.SameNames engine q) :=
  inferInstanceAs (Decidable (r.name = q.name ∧ r.effective engine = q.effective engine))

end Routine

/-- A schema with routines. Names that an engine compares are separated: those of tables and those
that annotations mention, those of routines, those of result types, and those of the columns that a
table has and a routine returns. Both engines tell the same routines apart, and of those that they
do not tell apart either all have columns or none has. -/
structure Database extends Schema where
  routines : List Routine
  mentions : Separated (tables.map Table.name ++ routines.filterMap Routine.mentioned?)
  routineNames : Separated (routines.map Routine.name)
  resultNames : Separated (routines.map Routine.resultName)
  columnNames : ∀ t ∈ tables, ∀ r ∈ routines,
    Separated (t.columns.map Column.name ++ r.output.columns.map OutputColumn.name)
  overloads : ∀ r ∈ routines, ∀ q ∈ routines,
    r.SameNames .postgres q ↔ r.SameNames .sqlServer q
  outputs : ∀ r ∈ routines, ∀ q ∈ routines, r.SameNames .postgres q →
    r.output.columns = [] → q.output.columns = []

/-! ## Written down -/

/-- The column as written down for an engine. -/
def OutputColumn.row (engine : Engine) (c : OutputColumn) : ResultColumnRow :=
  ⟨c.name.on engine, c.order, c.type.native engine, c.isNullable, c.size⟩

/-- The input as written down for an engine. -/
def Input.stored (engine : Engine) (p : Input) : StoredParameter :=
  ⟨p.name engine, p.type.native engine, none, false, p.hasDefault, p.isOutput⟩

/-- The routine as written down for an engine. -/
def Routine.stored (engine : Engine) (r : Routine) : StoredRoutine where
  schema := engine.defaultNamespace
  name := r.name.on engine
  specificName := r.specific engine
  kind := r.kind engine
  returnType := (r.output.declares engine).returnType
  returnsSet := (r.output.declares engine).returnsSet
  resultSignature := (r.output.declares engine).signature
  description := r.annotation.comment engine
  parameters := r.inputs.map (Input.stored engine)
  resultColumns := r.output.columns.map (OutputColumn.row engine)

/-- The database as written down for an engine. -/
def Database.snapshot (db : Database) (engine : Engine) : CatalogSnapshot :=
  { db.toSchema.snapshot engine with routines := db.routines.map (Routine.stored engine) }

/-! ## Look-up -/

variable {engine : Engine} {db : Database} {r : Routine}

theorem Routine.SameNames.refl (engine : Engine) (r : Routine) : r.SameNames engine r := ⟨rfl, rfl⟩

theorem Routine.SameNames.symm {r q : Routine} (h : r.SameNames engine q) : q.SameNames engine r :=
  ⟨h.1.symm, h.2.symm⟩

theorem Database.sameNames_iff (engine : Engine) {q : Routine} (hq : q ∈ db.routines)
    (hr : r ∈ db.routines) : q.SameNames engine r ↔ q.SameNames .postgres r := by
  cases engine with
  | postgres => exact Iff.rfl
  | sqlServer => exact (db.overloads q hq r hr).symm

/-- The routine whose inputs and columns a catalog gives when asked for this one. -/
def Database.contents (db : Database) (r : Routine) : Routine :=
  (db.routines.find? fun q => q.SameNames .postgres r).getD r

theorem Database.contents_mem (hr : r ∈ db.routines) :
    db.contents r ∈ db.routines ∧ (db.contents r).SameNames .postgres r := by
  unfold Database.contents
  cases h : db.routines.find? fun q => decide (q.SameNames .postgres r) with
  | none => exact ⟨hr, .refl _ r⟩
  | some q =>
      have hsame := List.find?_some h
      exact ⟨List.mem_of_find?_eq_some h, of_decide_eq_true hsame⟩

theorem Database.find?_contents (hr : r ∈ db.routines) :
    (db.routines.find? fun q => q.SameNames .postgres r) = some (db.contents r) := by
  unfold Database.contents
  cases h : db.routines.find? fun q => decide (q.SameNames .postgres r) with
  | some q => rfl
  | none =>
      rw [List.find?_eq_none] at h
      exact absurd (decide_eq_true (.refl _ r)) (h r hr)

/-- Values stay values and rows stay rows, whichever routine of the same names counts. -/
theorem Database.contents_columns (hr : r ∈ db.routines) :
    (db.contents r).output.columns = [] ↔ r.output.columns = [] := by
  obtain ⟨hmem, hsame⟩ := db.contents_mem hr
  constructor
  · exact db.outputs _ hmem r hr hsame
  · exact db.outputs r hr _ hmem hsame.symm

/-- Either engine looks up the same routine. -/
theorem routine?_stored (engine : Engine) (hr : r ∈ db.routines) :
    (db.snapshot engine).routine? (r.stored engine).row =
      some ((db.contents r).stored engine) := by
  have hsame : ∀ q ∈ db.routines,
      (engine.namesEqual (q.stored engine).schema (r.stored engine).row.schema &&
        engine.namesEqual (q.stored engine).name (r.stored engine).row.name &&
          (q.stored engine).effectiveName == (r.stored engine).row.specificName) =
            decide (q.SameNames .postgres r) := by
    intro q hq
    have hschema : engine.namesEqual (q.stored engine).schema (r.stored engine).row.schema =
        true := engine.namesEqual_refl _
    have hname : engine.namesEqual (q.stored engine).name (r.stored engine).row.name =
        decide (q.name = r.name) :=
      namesEqual_on db.routineNames engine (List.mem_map_of_mem hq) (List.mem_map_of_mem hr)
    have hspecific : ((q.stored engine).effectiveName == (r.stored engine).row.specificName) =
        decide (q.effective engine = r.effective engine) := by
      rw [Bool.eq_iff_iff, beq_iff_eq, decide_eq_true_eq]
      exact Iff.rfl
    rw [hschema, hname, hspecific, Bool.true_and, ← Bool.decide_and, decide_eq_decide]
    exact db.sameNames_iff engine hq hr
  unfold CatalogSnapshot.routine?
  show ((db.routines.map (Routine.stored engine)).find? _) = _
  rw [find?_map_of_mem hsame, db.find?_contents hr]
  rfl

theorem inputs_stored (engine : Engine) (hr : r ∈ db.routines) :
    inputs (db.snapshot engine) (r.stored engine).row =
      ((db.contents r).stored engine).parameterRows := by
  unfold inputs
  rw [routine?_stored engine hr]

/-- Columns come from what is written down: a declared signature is read for values alone, and those
have none. -/
theorem resultColumnsOf_stored (engine : Engine) (hr : r ∈ db.routines) :
    (db.snapshot engine).resultColumnsOf (r.stored engine).row =
      (db.contents r).output.columns.map (OutputColumn.row engine) := by
  unfold CatalogSnapshot.resultColumnsOf
  rw [routine?_stored engine hr]
  dsimp only
  unfold CatalogSnapshot.storedResultColumns Routine.stored
  dsimp only
  cases (db.contents r).output with
  | rows first rest declares => rfl
  | values type returnsSet => cases engine <;> rfl

end SchemaModel.Portable
