import SchemaModel.Proofs.Text.LetterCase
import SchemaModel.Proofs.Inspection.Closure
import SchemaModel.Proofs.Inspection.Growth
import SchemaModel.Proofs.Inspection.Spelling
import SchemaModel.Proofs.Inspection.TypeStage

/-!
# `SchemaModel.Proofs.Inspection.Recasing` — references in another letter case

Keys, foreign keys, inputs and return types of a SQL Server database refer to tables, columns and
types by name, and need not spell the name as it was declared. An inspection finds what is meant and
goes on with the declared name, so two snapshots whose references differ in letter case alone are
inspected alike: they give one domain, or faults of one class.

## Contents
- `inSmallLetters`: a snapshot with its references in small letters, and settings with their
  exclusions. Two snapshots differ in the letter case of references exactly when these are the same.
- **Answers.** What a snapshot answers once its references are in small letters.
- `Mirrors`, `Agrees`: two runs come to the same domain and to results that correspond, or to faults
  of one class. Kept by sequences.
- **Stages.** One lemma for each stage, up to `inspection_small`.
- `inspect_recased`: inspections of snapshots that differ in letter case alone.
-/

namespace SchemaModel

open Inspection

/-! ## References in small letters -/

/-- The key constraint with its columns in small letters. -/
def KeyConstraintRow.inSmallLetters (row : KeyConstraintRow) : KeyConstraintRow :=
  { row with columns := row.columns.map Text.inSmallLetters }

/-- The foreign key with its columns and its target in small letters. -/
def ForeignKeyRow.inSmallLetters (fk : ForeignKeyRow) : ForeignKeyRow :=
  { fk with
    column := Text.inSmallLetters fk.column
    refSchema := Text.inSmallLetters fk.refSchema
    refTable := Text.inSmallLetters fk.refTable
    refColumn := Text.inSmallLetters fk.refColumn }

/-- The table with the references of its keys in small letters. -/
def StoredTable.inSmallLetters (t : StoredTable) : StoredTable :=
  { t with
    constraints := t.constraints.map KeyConstraintRow.inSmallLetters
    foreignKeys := t.foreignKeys.map ForeignKeyRow.inSmallLetters }

/-- The input with the schema of its type in small letters. -/
def StoredParameter.inSmallLetters (p : StoredParameter) : StoredParameter :=
  { p with typeSchema := p.typeSchema.map Text.inSmallLetters }

/-- The routine with its return type and the schemas of its inputs' types in small letters. -/
def StoredRoutine.inSmallLetters (r : StoredRoutine) : StoredRoutine :=
  { r with
    returnType := r.returnType.map Text.inSmallLetters
    parameters := r.parameters.map StoredParameter.inSmallLetters }

/-- The snapshot with its references in small letters. What is declared keeps its spelling. -/
def CatalogSnapshot.inSmallLetters (s : CatalogSnapshot) : CatalogSnapshot :=
  { s with
    tables := s.tables.map StoredTable.inSmallLetters
    routines := s.routines.map StoredRoutine.inSmallLetters }

/-- The settings with the excluded schemas in small letters. -/
def Settings.inSmallLetters (settings : Settings) : Settings :=
  { settings with excludedSchemas := settings.excludedSchemas.map Text.inSmallLetters }

/-- The row of an input with the schema of its type in small letters. -/
def ParameterRow.inSmallLetters (row : ParameterRow) : ParameterRow :=
  { row with typeSchema := row.typeSchema.map Text.inSmallLetters }

/-- The row of a routine with its return type in small letters. -/
def RoutineRow.inSmallLetters (row : RoutineRow) : RoutineRow :=
  { row with returnType := row.returnType.map Text.inSmallLetters }

/-! ## Names -/

theorem Engine.namesEqual_small (a b : String) :
    sqlServer.namesEqual a (Text.inSmallLetters b) = sqlServer.namesEqual a b := by
  show Text.eqIgnoreAsciiCase a (Text.inSmallLetters b) = Text.eqIgnoreAsciiCase a b
  unfold Text.eqIgnoreAsciiCase
  rw [Text.toList_inSmallLetters, List.map_map]
  congr 2
  exact funext Text.asciiLower_asciiLower

theorem Engine.small_namesEqual (a b : String) :
    sqlServer.namesEqual (Text.inSmallLetters a) b = sqlServer.namesEqual a b := by
  rw [namesEqual_comm, namesEqual_small, namesEqual_comm]

/-! ## Answers -/

namespace CatalogSnapshot

variable {s : CatalogSnapshot}

theorem isExcluded_small (hs : s.engine = .sqlServer) (excluded : List String) (schema : String) :
    s.inSmallLetters.isExcluded (excluded.map Text.inSmallLetters) schema =
      s.isExcluded excluded schema := by
  unfold isExcluded
  rw [List.any_map]
  congr 1
  funext e
  show s.engine.namesEqual (Text.inSmallLetters e) schema = s.engine.namesEqual e schema
  rw [hs, Engine.small_namesEqual]

theorem tableRows_small (hs : s.engine = .sqlServer) (excluded : List String) :
    s.inSmallLetters.tableRows (excluded.map Text.inSmallLetters) = s.tableRows excluded := by
  unfold tableRows
  simp only [isExcluded_small hs]
  show ((s.tables.map StoredTable.inSmallLetters).filter _).map StoredTable.row = _
  rw [List.filter_map, List.map_map]
  rfl

theorem routineRows_small (hs : s.engine = .sqlServer) (excluded : List String) :
    s.inSmallLetters.routineRows (excluded.map Text.inSmallLetters) =
      (s.routineRows excluded).map RoutineRow.inSmallLetters := by
  unfold routineRows
  simp only [isExcluded_small hs]
  show ((s.routines.map StoredRoutine.inSmallLetters).filter _).map StoredRoutine.row = _
  rw [List.filter_map, List.map_map, List.map_map]
  rfl

/-- What is asked about a table is answered from the table in small letters. -/
theorem ofTable_small {α : Type} {part : StoredTable → List α} {g : α → α}
    (h : ∀ t : StoredTable, part t.inSmallLetters = (part t).map g) (row : TableRow) :
    s.inSmallLetters.ofTable row part = (s.ofTable row part).map g := by
  have htable : s.inSmallLetters.table? row =
      (s.table? row).map StoredTable.inSmallLetters := List.find?_map
  unfold ofTable
  rw [htable]
  cases s.table? row with
  | none => rfl
  | some t => exact h t

theorem routine?_small (row : RoutineRow) :
    s.inSmallLetters.routine? row.inSmallLetters =
      (s.routine? row).map StoredRoutine.inSmallLetters := List.find?_map

theorem resultColumnsOf_small (row : RoutineRow) :
    s.inSmallLetters.resultColumnsOf row.inSmallLetters = s.resultColumnsOf row := by
  unfold resultColumnsOf
  rw [routine?_small]
  cases s.routine? row with
  | none => rfl
  | some r => rfl

end CatalogSnapshot

namespace Offline

variable {s : CatalogSnapshot} {α β γ δ : Type}

theorem inputs_small (row : RoutineRow) :
    inputs s.inSmallLetters row.inSmallLetters =
      (inputs s row).map ParameterRow.inSmallLetters := by
  have hrows : ∀ (ps : List StoredParameter) (n : Int),
      StoredRoutine.parameterRowsFrom n (ps.map StoredParameter.inSmallLetters) =
        (StoredRoutine.parameterRowsFrom n ps).map ParameterRow.inSmallLetters := by
    intro ps
    induction ps with
    | nil => exact fun _ => rfl
    | cons p rest ih => exact fun n => congrArg (_ :: ·) (ih (n + 1))
  unfold inputs
  rw [CatalogSnapshot.routine?_small]
  cases s.routine? row with
  | none => rfl
  | some r => exact hrows r.parameters 1

/-! ## Runs that agree -/

/-- Two runs end in the same domain of SQL Server with results that correspond, or with faults of
one class. -/
inductive Mirrors (g : α → β) : Outcome β × Domain → Outcome α × Domain → Prop where
  | ok (a : α) {d : Domain} (hd : d.engine = .sqlServer) : Mirrors g (.ok (g a), d) (.ok a, d)
  | error {e e' : Fault} {d d' : Domain} (h : e.kind = e'.kind) :
      Mirrors g (.error e, d) (.error e', d')

/-- From every domain of SQL Server the two steps come to results that correspond. -/
def Agrees (g : α → β) (x : Build β) (y : Build α) : Prop :=
  ∀ d, d.engine = .sqlServer → Mirrors g (x d) (y d)

/-- Runs may start from different domains, and go on from one where they met. -/
theorem Mirrors.bind {g : α → β} {g' : γ → δ} {x : Build β} {y : Build α} {k : β → Build δ}
    {l : α → Build γ} {d d' : Domain} (h : Mirrors g (x d) (y d'))
    (hk : ∀ a, Agrees g' (k (g a)) (l a)) : Mirrors g' ((x >>= k) d) ((y >>= l) d') := by
  rcases hx : x d with ⟨e | b, d₁⟩
  · rcases hy : y d' with ⟨e' | a, d₂⟩
    · rw [hx, hy] at h
      rw [Build.bind_error hx, Build.bind_error hy]
      cases h with
      | error hkind => exact .error hkind
    · rw [hx, hy] at h
      cases h
  · rcases hy : y d' with ⟨e' | a, d₂⟩
    · rw [hx, hy] at h
      cases h
    · rw [hx, hy] at h
      rw [Build.bind_ok hx, Build.bind_ok hy]
      cases h with
      | ok _ hd => exact hk a d₁ hd

namespace Agrees

theorem pure (a : α) : Agrees id (Pure.pure a : Build α) (Pure.pure a) :=
  fun _ hd => .ok a hd

theorem refl {x : Build α} (h : Growing x) : Agrees id x x := by
  intro d hd
  rcases hx : x d with ⟨e | a, d'⟩
  · exact .error rfl
  · exact .ok a ((h.of_run hx).1.engine.trans hd)

theorem outcome {x y : Outcome α} (h : x.mapError Fault.kind = y.mapError Fault.kind) :
    Agrees id (Build.outcome x) (Build.outcome y) := by
  intro d hd
  rcases Outcome.mapError_cases h with ⟨a, rfl, rfl⟩ | ⟨e, e', rfl, rfl, hkind⟩
  · exact .ok a hd
  · exact .error hkind

theorem bind {g : α → β} {g' : γ → δ} {x : Build β} {y : Build α} {k : β → Build δ}
    {l : α → Build γ} (h : Agrees g x y) (hk : ∀ a, Agrees g' (k (g a)) (l a)) :
    Agrees g' (x >>= k) (y >>= l) :=
  fun d hd => (h d hd).bind hk

end Agrees

/-! ## Tables -/

section Tables

variable {fields : List Field} {table : String}

theorem findField?_small (fields : List Field) (name : String) :
    findField? .sqlServer fields (Text.inSmallLetters name) =
      findField? .sqlServer fields name := by
  unfold findField?
  congr 1
  exact funext fun f => Engine.namesEqual_small f.name name

theorem modifyField_small (fields : List Field) (name : String) (change : Field → Field) :
    modifyField .sqlServer fields (Text.inSmallLetters name) change =
      modifyField .sqlServer fields name change := by
  unfold modifyField
  congr 1
  exact funext fun f => Engine.namesEqual_small f.name name

theorem markKeys_small (fields : List Field) (columns : List String) :
    markKeys .sqlServer fields (columns.map Text.inSmallLetters) =
      markKeys .sqlServer fields columns := by
  unfold markKeys
  rw [List.foldl_map]
  simp only [modifyField_small]

/-- The names found are those of the fields, whatever the spelling of the columns. -/
theorem constraintNames_small (constraint : String) (columns : List String) :
    (constraintNames .sqlServer table constraint fields
        (columns.map Text.inSmallLetters)).mapError Fault.kind =
      (constraintNames .sqlServer table constraint fields columns).mapError Fault.kind := by
  induction columns with
  | nil => rfl
  | cons column rest ih =>
      rw [List.map_cons, constraintNames, constraintNames, findField?_small]
      cases findField? .sqlServer fields column with
      | none => rfl
      | some f =>
          dsimp only
          rw [Outcome.mapError_map, ih, ← Outcome.mapError_map]

theorem applyConstraint_small (t : ApplicationType) (row : KeyConstraintRow) :
    (applyConstraint .sqlServer table t row.inSmallLetters).mapError Fault.kind =
      (applyConstraint .sqlServer table t row).mapError Fault.kind := by
  unfold applyConstraint KeyConstraintRow.inSmallLetters
  dsimp only
  rw [markKeys_small, Outcome.mapError_map, constraintNames_small, ← Outcome.mapError_map]

theorem applyConstraints_small (t : ApplicationType) (rows : List KeyConstraintRow) :
    (applyConstraints .sqlServer table t
        (rows.map KeyConstraintRow.inSmallLetters)).mapError Fault.kind =
      (applyConstraints .sqlServer table t rows).mapError Fault.kind := by
  induction rows generalizing t with
  | nil => rfl
  | cons row rest ih =>
      rw [List.map_cons, applyConstraints, applyConstraints]
      rcases Outcome.mapError_cases (applyConstraint_small t row) with
        ⟨t₁, hsmall, hplain⟩ | ⟨e, e', hsmall, hplain, hkind⟩
      · rw [hsmall, hplain]
        exact ih t₁
      · rw [hsmall, hplain]
        exact congrArg Except.error hkind

theorem tableType_small (hs : s.engine = .sqlServer) (row : TableRow) :
    (tableType s.inSmallLetters row).mapError Fault.kind =
      (tableType s row).mapError Fault.kind := by
  have hcolumns : s.inSmallLetters.ofTable row StoredTable.columnRows =
      s.ofTable row StoredTable.columnRows := by
    rw [CatalogSnapshot.ofTable_small (g := id) fun _ => (List.map_id _).symm, List.map_id]
  have hflags : s.inSmallLetters.ofTable row StoredTable.flagsRows =
      s.ofTable row StoredTable.flagsRows := by
    rw [CatalogSnapshot.ofTable_small (g := id) fun _ => (List.map_id _).symm, List.map_id]
  have hconstraints : s.inSmallLetters.ofTable row StoredTable.constraints =
      (s.ofTable row StoredTable.constraints).map KeyConstraintRow.inSmallLetters :=
    CatalogSnapshot.ofTable_small (fun _ => rfl) row
  have hengine : s.inSmallLetters.engine = .sqlServer := hs
  unfold tableType
  rw [hengine, hs, hcolumns, hflags, hconstraints]
  exact applyConstraints_small _ _

/-- The foreign keys that wait for a table, in small letters. -/
def smallPending (pending : TypeKey × List ForeignKeyRow) : TypeKey × List ForeignKeyRow :=
  (pending.1, pending.2.map ForeignKeyRow.inSmallLetters)

theorem tableStage_small (hs : s.engine = .sqlServer) (rows : List TableRow) :
    Agrees (List.map smallPending) (tableStage s.inSmallLetters rows) (tableStage s rows) := by
  induction rows with
  | nil => exact fun d hd => .ok [] hd
  | cons row rest ih =>
      refine (Agrees.outcome (tableType_small hs row)).bind fun t => ?_
      refine Agrees.bind (g := id) (fun d hd => .ok () hd) fun _ => ?_
      refine ih.bind fun more => ?_
      have hforeign : s.inSmallLetters.ofTable row StoredTable.foreignKeys =
          (s.ofTable row StoredTable.foreignKeys).map ForeignKeyRow.inSmallLetters :=
        CatalogSnapshot.ofTable_small (fun _ => rfl) row
      rw [hforeign]
      exact fun d hd => .ok ((t.key, s.ofTable row StoredTable.foreignKeys) :: more) hd

end Tables

/-! ## References -/

theorem findType?_congr {d : Domain} {a b : TypeKey} (h : d.engine.keysEqual a b = true) :
    d.findType? a = d.findType? b := by
  unfold Domain.findType?
  congr 1
  exact funext fun t => d.engine.keysEqual_congr h t.key

theorem reference_small (owner : TypeKey) (fk : ForeignKeyRow) :
    Agrees id (reference owner fk.inSmallLetters) (reference owner fk) := by
  intro d hd
  have htarget : d.findType? ⟨fk.inSmallLetters.refSchema, fk.inSmallLetters.refTable⟩ =
      d.findType? ⟨fk.refSchema, fk.refTable⟩ := by
    apply findType?_congr
    rw [hd]
    exact Bool.and_eq_true_iff.2 ⟨Text.eqIgnoreAsciiCase_inSmallLetters _,
      Text.eqIgnoreAsciiCase_inSmallLetters _⟩
  have hcolumn : ∀ fields, findField? d.engine fields fk.inSmallLetters.column =
      findField? d.engine fields fk.column := by
    intro fields
    rw [hd]
    exact findField?_small fields fk.column
  have hrefColumn : ∀ fields, findField? d.engine fields fk.inSmallLetters.refColumn =
      findField? d.engine fields fk.refColumn := by
    intro fields
    rw [hd]
    exact findField?_small fields fk.refColumn
  have hmodify : ∀ fields change, modifyField d.engine fields fk.inSmallLetters.column change =
      modifyField d.engine fields fk.column change := by
    intro fields change
    rw [hd]
    exact modifyField_small fields fk.column change
  unfold reference resolveForeignKey
  dsimp only
  rw [htarget]
  cases d.findType? ⟨fk.refSchema, fk.refTable⟩ with
  | none => exact .ok () hd
  | some target =>
      dsimp only
      -- From here on names are those of the target and its field, not those of the foreign key.
      rw [hrefColumn]
      cases findField? d.engine target.fields fk.refColumn with
      | none => exact .error rfl
      | some targetField =>
          simp only [hcolumn, hmodify]
          cases (d.findType? owner).bind fun t => findField? d.engine t.fields fk.column with
          | none => exact .error rfl
          | some _ => exact .ok () hd

theorem references_small (owner : TypeKey) (fks : List ForeignKeyRow) :
    Agrees id (references owner (fks.map ForeignKeyRow.inSmallLetters)) (references owner fks) := by
  induction fks with
  | nil => exact .pure ()
  | cons fk rest ih => exact (reference_small owner fk).bind fun _ => ih

theorem referenceStage_small (pending : List (TypeKey × List ForeignKeyRow)) :
    Agrees id (referenceStage (pending.map smallPending)) (referenceStage pending) := by
  induction pending with
  | nil => exact .pure ()
  | cons first rest ih => exact (references_small first.1 first.2).bind fun _ => ih

/-- The first stage makes its own domain, whatever it starts from. -/
theorem typeStage_small (hs : s.engine = .sqlServer) (settings : Settings) (d d' : Domain) :
    Mirrors id (typeStage s.inSmallLetters settings.inSmallLetters d)
      (typeStage s settings d') := by
  have hblank : blankDomain s.inSmallLetters.engine settings.inSmallLetters =
      blankDomain s.engine settings := rfl
  have hrows : s.inSmallLetters.tableRows settings.inSmallLetters.excludedSchemas =
      s.tableRows settings.excludedSchemas :=
    CatalogSnapshot.tableRows_small hs settings.excludedSchemas
  unfold typeStage
  rw [Build.act_bind, Build.act_bind, hblank, hrows]
  exact (tableStage_small hs _).bind referenceStage_small _ hs

/-! ## Operations -/

/-- Keys that the engine takes for the same find the same, or nothing. -/
theorem userShape_small (hs : s.engine = .sqlServer) {a b : TypeKey}
    (h : Engine.sqlServer.keysEqual a b = true) (user : TypeKey) :
    Agrees id (userShape s.inSmallLetters a user) (userShape s b user) := by
  intro d hd
  have hkeys : ∀ key, d.engine.keysEqual key a = d.engine.keysEqual key b := by
    rw [hd]
    exact Engine.sqlServer.keysEqual_congr h
  have hfind : d.findResultType? a = d.findResultType? b := by
    unfold Domain.findResultType?
    simp only [hkeys]
  have hmodify : d.modifyResultType a = d.modifyResultType b := by
    unfold Domain.modifyResultType
    simp only [hkeys]
  have huser : s.inSmallLetters.userType? a.schema a.name = s.userType? b.schema b.name := by
    rw [← hs] at h
    exact CatalogSnapshot.userType?_congr h
  unfold userShape
  -- What is found is the same, and the new result type takes the name of what was found.
  rw [hfind, hmodify, huser]
  cases d.findResultType? b with
  | some existing => exact .ok _ hd
  | none =>
      dsimp only
      cases s.userType? b.schema b.name with
      | none => exact .error rfl
      | some row =>
          dsimp only
          cases row.kind with
          | composite => exact .ok _ hd
          | domain => exact .ok _ hd
          | enum => exact .ok _ hd

theorem parameter_small (hs : s.engine = .sqlServer) (op : TypeKey) (row : ParameterRow) :
    Agrees id (parameter s.inSmallLetters op row.inSmallLetters) (parameter s op row) := by
  have hkey : Engine.sqlServer.keysEqual
      ⟨row.inSmallLetters.typeSchema.getD op.schema, row.nativeType⟩
      ⟨row.typeSchema.getD op.schema, row.nativeType⟩ = true := by
    refine Bool.and_eq_true_iff.2 ⟨?_, Text.eqIgnoreAsciiCase_refl _⟩
    unfold ParameterRow.inSmallLetters
    dsimp only
    cases row.typeSchema with
    | none => exact Text.eqIgnoreAsciiCase_refl _
    | some schema => exact Text.eqIgnoreAsciiCase_inSmallLetters schema
  have hsame : ∀ shape,
      shapedParameter op row.inSmallLetters shape = shapedParameter op row shape := by
    intro shape
    cases shape <;> rfl
  by_cases huser : row.isUserDefined
  · have huser' : row.inSmallLetters.isUserDefined = true := huser
    unfold parameter
    rw [if_pos huser, if_pos huser']
    refine (userShape_small hs hkey op).bind fun shape => ?_
    show Agrees id (shapedParameter op row.inSmallLetters shape) (shapedParameter op row shape)
    rw [hsame]
    cases shape with
    | rows key => exact .pure _
    | value v => exact .outcome rfl
  · have hplain : parameter s.inSmallLetters op row.inSmallLetters = parameter s op row := by
      have huser' : ¬row.inSmallLetters.isUserDefined = true := huser
      unfold parameter
      rw [if_neg huser, if_neg huser']
      rfl
    rw [hplain]
    exact .refl (parameter_growing op row)

theorem parameters_small (hs : s.engine = .sqlServer) (op : TypeKey) (rows : List ParameterRow) :
    Agrees id (parameters s.inSmallLetters op (rows.map ParameterRow.inSmallLetters))
      (parameters s op rows) := by
  induction rows with
  | nil => exact .pure []
  | cons row rest ih =>
      exact (parameter_small hs op row).bind fun p => ih.bind fun more => .pure (p :: more)

/-- The declared type is recognized, or the type that it names is found, in either spelling. -/
theorem declaredShape_small (hs : s.engine = .sqlServer) (o : Operation) (row : RoutineRow) :
    Agrees id (declaredShape s.inSmallLetters o row.inSmallLetters) (declaredShape s o row) := by
  intro d hd
  have htext : (row.returnType.map Text.inSmallLetters).getD "" =
      Text.inSmallLetters (row.returnType.getD "") := by
    cases row.returnType <;> rfl
  have hkey := typeNameKey_inSmallLetters (row.returnType.getD "") o.schema
  have hfind : d.findType? (typeNameKey (Text.inSmallLetters (row.returnType.getD "")) o.schema) =
      d.findType? (typeNameKey (row.returnType.getD "") o.schema) :=
    findType?_congr (hd ▸ hkey)
  unfold declaredShape RoutineRow.inSmallLetters
  -- The tests on the declared type come out alike; only the last case still has two spellings.
  simp only [hd, htext, Engine.isVoid_inSmallLetters, isPseudoType_inSmallLetters,
    Engine.valueType?_inSmallLetters, hfind]
  split
  · exact .ok _ hd
  split
  · exact .ok _ hd
  split
  · exact .ok _ hd
  split
  · exact .ok _ hd
  · refine (userShape_small hs hkey o.key).bind (fun shape => ?_) d hd
    exact .refl (resolvedShape_growing o row.returnsSet shape)

theorem returnShape_small (hs : s.engine = .sqlServer) (o : Operation) (row : RoutineRow) :
    Agrees id (returnShape s.inSmallLetters o row.inSmallLetters) (returnShape s o row) := by
  unfold returnShape
  rw [CatalogSnapshot.resultColumnsOf_small]
  split
  · exact declaredShape_small hs o row
  · exact .refl (rowShape_growing o _)

theorem operation_small (hs : s.engine = .sqlServer) (row : RoutineRow) :
    Agrees id (operation s.inSmallLetters row.inSmallLetters) (operation s row) := by
  intro d hd
  unfold operation operationAbout
  rw [inputs_small]
  refine (parameters_small hs _ (inputs s row)).bind (fun ps => ?_) d hd
  refine (returnShape_small hs _ row).bind fun returns => ?_
  exact fun d hd => .ok _ hd

/-- Routine after routine comes to the same operations. -/
theorem operationStage_small (hs : s.engine = .sqlServer) (rows : List RoutineRow) :
    Agrees id (operationStage s.inSmallLetters (rows.map RoutineRow.inSmallLetters))
      (operationStage s rows) := by
  induction rows with
  | nil => exact .pure ()
  | cons row rest ih =>
      refine (operation_small hs row).bind fun o => ?_
      exact Agrees.bind (g := id) (fun d hd => .ok () hd) fun _ => ih

theorem inspection_small (hs : s.engine = .sqlServer) (settings : Settings) (d d' : Domain) :
    Mirrors id (inspection s.inSmallLetters settings.inSmallLetters d)
      (inspection s settings d') := by
  have hrows : s.inSmallLetters.routineRows settings.inSmallLetters.excludedSchemas =
      (s.routineRows settings.excludedSchemas).map RoutineRow.inSmallLetters :=
    CatalogSnapshot.routineRows_small hs settings.excludedSchemas
  unfold inspection
  rw [hrows]
  refine (typeStage_small hs settings d d').bind fun _ => ?_
  exact (operationStage_small hs _).bind fun _ d hd => .ok d hd

theorem Mirrors.mapError {x y : Outcome α × Domain} (h : Mirrors id x y) :
    x.1.mapError Fault.kind = y.1.mapError Fault.kind := by
  cases h with
  | ok a _ => rfl
  | error hkind => exact congrArg Except.error hkind

/-! ## Snapshots in two letter cases -/

section Recased

variable {s' : CatalogSnapshot} {settings settings' : Settings} {executed executed' : List String}
  {start start' : Domain}

/-- The snapshot with its references in small letters stands between the two. -/
theorem inspect_sameOutcome (hs : s.engine = .sqlServer)
    (h : s'.inSmallLetters = s.inSmallLetters)
    (hsettings : settings'.inSmallLetters = settings.inSmallLetters) :
    (run (inspect s'.catalog settings') executed' start').result.mapError Fault.kind =
      (run (inspect s.catalog settings) executed start).result.mapError Fault.kind := by
  have hs' : s'.engine = .sqlServer := (congrArg CatalogSnapshot.engine h).trans hs
  have hsecond := (inspection_small hs' settings' default start').mapError
  rw [h, hsettings] at hsecond
  rw [inspect_result, inspect_result, ← hsecond]
  exact (inspection_small hs settings default start).mapError

/-- Two SQL Server snapshots whose references differ in letter case alone, with settings whose
exclusions do so, are inspected to faults of one class or to one domain, and its names are spelled
as they are declared. -/
theorem inspect_recased (hs : s.engine = .sqlServer) (h : s'.inSmallLetters = s.inSmallLetters)
    (hsettings : settings'.inSmallLetters = settings.inSmallLetters) :
    (run (inspect s'.catalog settings') executed' start').result.mapError Fault.kind =
        (run (inspect s.catalog settings) executed start).result.mapError Fault.kind ∧
      ∀ d, (run (inspect s.catalog settings) executed start).result = .ok d →
        (run (inspect s'.catalog settings') executed' start').result = .ok d ∧
          d.SpelledAs s ∧ d.SpelledAs s' := by
  have hsame : (run (inspect s'.catalog settings') executed' start').result.mapError Fault.kind =
      (run (inspect s.catalog settings) executed start).result.mapError Fault.kind :=
    inspect_sameOutcome hs h hsettings
  refine ⟨hsame, fun d hd => ?_⟩
  have hd' : (run (inspect s'.catalog settings') executed' start').result = .ok d :=
    Outcome.mapError_eq_ok.1 (hsame.trans (Outcome.mapError_eq_ok.2 hd))
  exact ⟨hd', inspect_spelled hd, inspect_spelled hd'⟩

/-- A bakery, where references are written in some way of one's own. The loaf refers to its baker
through a column that may be there or not. -/
def bakery (written : String → String) (column : String) : CatalogSnapshot where
  engine := .sqlServer
  tables :=
    [⟨"dbo", "Loaf", none,
      [⟨"LoafId", "int", none, none, none, false, true, false, none, none⟩,
       ⟨"BakerId", "int", none, none, none, false, false, false, none, none⟩],
      [⟨"PK_Loaf", .primary, [written "LoafId"]⟩],
      [⟨"FK_Loaf_Baker", written column, written "DBO", written "Baker", written "BakerId"⟩]⟩,
     ⟨"dbo", "Baker", none,
      [⟨"BakerId", "int", none, none, none, false, true, false, none, none⟩],
      [⟨"PK_Baker", .primary, [written "BakerID"]⟩], []⟩,
     ⟨"Old", "Oven", none, [], [⟨"PK_Oven", .primary, [written "OvenId"]⟩], []⟩]
  routines :=
    [⟨"dbo", "LoafFind", none, .function, some (written "dbo.Loaf"), true, none, none,
      [⟨"Recipe", "Recipe", some (written "Dbo"), true, false, false⟩], []⟩]
  userTypes :=
    [⟨"dbo", "Recipe", .composite, none, none, [⟨"Flour", 1, "nvarchar", false, some 20⟩]⟩]

/-- What an inspection of the bakery comes to. -/
def bake (written : String → String) (column : String) : Outcome Domain :=
  (run (inspect (bakery written column).catalog
    { Settings.standard with excludedSchemas := [written "OLD"] }) [] default).result

/-- In small letters or not, the bakery comes to one domain; without the column, neither does. -/
theorem inspect_recased_bakery :
    bakery Text.inSmallLetters "BakerId" ≠ bakery id "BakerId" ∧
      (∃ d, bake id "BakerId" = .ok d ∧ bake Text.inSmallLetters "BakerId" = .ok d ∧
        d.SpelledAs (bakery Text.inSmallLetters "BakerId") ∧ d.operations.length = 1) ∧
      (bake Text.inSmallLetters "CookId").mapError Fault.kind = .error "MissingField" := by
  have hrecased : ∀ column,
      (bakery Text.inSmallLetters column).inSmallLetters = (bakery id column).inSmallLetters →
      (bake Text.inSmallLetters column).mapError Fault.kind =
          (bake id column).mapError Fault.kind ∧
        ∀ d, bake id column = .ok d → bake Text.inSmallLetters column = .ok d ∧
          d.SpelledAs (bakery id column) ∧ d.SpelledAs (bakery Text.inSmallLetters column) :=
    fun column hcolumn => inspect_recased rfl hcolumn (by decide +kernel)
  refine ⟨by decide +kernel, ?_, ?_⟩
  · obtain ⟨d, hd, hcount⟩ : ∃ d, bake id "BakerId" = .ok d ∧ d.operations.length = 1 := by
      decide +kernel
    obtain ⟨hd', _, hspelled⟩ := (hrecased "BakerId" (by decide +kernel)).2 d hd
    exact ⟨d, hd, hd', hspelled, hcount⟩
  · rw [(hrecased "CookId" (by decide +kernel)).1]
    apply Outcome.mapError_eq_error
    decide +kernel

end Recased

end Offline

end SchemaModel
