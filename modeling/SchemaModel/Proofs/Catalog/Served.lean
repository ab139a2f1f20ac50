import SchemaModel.Proofs.Catalog.Cells
import SchemaModel.Proofs.Inspection.TableFields
import SchemaModel.Proofs.Inspection.Lockstep

/-!
# `SchemaModel.Proofs.Catalog.Served` — a snapshot and a server that holds the same database

A snapshot stands in for a PostgreSQL server: it answers from what is written down, where the server is
sent statements and its rows of cells are put together. When the server sends the rows that describe
the snapshot, the two catalogs give the same answers, and so the same inspections.

## Contents
- `Server.Answers`: what a server in a ready state answers to a statement. `ask_lockstep`: its pool
  gives that answer while it is open.
- `named`: what goes by a schema and a name, as the condition of a statement selects it. Where the keys
  are distinct it is what a look-up finds (`named_eq_find?`).
- `CatalogSnapshot.Servable`: the snapshot is one that a server can hold. `Serves`: a server holds it;
  `serves_holding`: there is such a server for every snapshot.
- **Answers.** One lemma for each question, and `served_agrees`, `served_lists` for all of them.
- `served_alike`: the two catalogs answer alike, and their inspections are the same.
- `clinic`: a database with keys of several columns, outputs, a signature and types of its own.
-/

namespace SchemaModel

open Inspection

/-! ## Asking a server -/

/-- In a ready state the server answers the statement with the rows and is ready again. -/
def Server.Answers {σ : Type} (ready : σ → Prop) (server : Server σ) (statement : Statement)
    (rows : List Cells) : Prop :=
  ∀ state, ready state → ∃ state', server.query statement state = (.ok rows, state') ∧ ready state'

namespace Postgres

variable {σ τ : Type} {ready : σ → Prop} {server : Server σ}

/-- The pool is open and its server ready, beside any state of another catalog. -/
def Open (ready : σ → Prop) (pool : Pool σ) (_ : τ) : Prop :=
  pool.closed = false ∧ ready pool.server

theorem exchange_ok {α : Type} {question : Exchange σ α} {fault : String → Fault} {answer : α}
    {state state' : σ} {closed : Bool} (h : question state = (.ok answer, state')) :
    exchange question fault ⟨state, closed⟩ = (.ok answer, ⟨state', closed⟩) := by
  have hget : (get : Reading (Pool σ) (Pool σ)) ⟨state, closed⟩ =
      (.ok ⟨state, closed⟩, ⟨state, closed⟩) := rfl
  unfold exchange
  rw [bind_apply, hget]
  dsimp only
  rw [h]
  rfl

theorem ask_ok {sql : String} {arguments : List Argument} {rows : List Cells} {state state' : σ}
    (h : server.query ⟨sql, arguments⟩ state = (.ok rows, state')) (context : String) :
    ask server sql arguments context ⟨state, false⟩ = (.ok rows, ⟨state', false⟩) := by
  have hcheck : checkOut ("getting connection for " ++ context) (⟨state, false⟩ : Pool σ) =
      (.ok (), ⟨state, false⟩) := rfl
  unfold ask
  rw [bind_apply, hcheck]
  exact exchange_ok h

theorem ask_lockstep {sql : String} {arguments : List Argument} {rows : List Cells}
    (h : server.Answers ready ⟨sql, arguments⟩ rows) (context : String) :
    Lockstep (Open ready) (· = rows) (ask server sql arguments context)
      (pure rows : Reading τ (List Cells)) := by
  rintro ⟨state, closed⟩ q ⟨hopen, hready⟩
  obtain ⟨state', hanswer, hready'⟩ := h state hready
  cases hopen
  rw [ask_ok hanswer]
  exact ⟨rfl, ⟨rfl, hready'⟩, fun _ h => (Except.ok.inj h).symm⟩

end Postgres

/-! ## Selecting by name -/

/-- The elements that go by a schema and a name. -/
def named {α : Type} (key : α → TypeKey) (xs : List α) (schema name : String) : List α :=
  xs.filter fun x => key x = ⟨schema, name⟩

/-- Among elements with distinct keys, what goes by a name is what a look-up finds. -/
theorem named_eq_find? {α : Type} {engine : Engine} (hengine : engine = .postgres)
    {key : α → TypeKey} {xs : List α}
    (hdistinct : xs.Pairwise fun a b => engine.keysEqual (key a) (key b) = false)
    (schema name : String) :
    named key xs schema name =
      (xs.find? fun x => engine.keysEqual (key x) ⟨schema, name⟩).toList := by
  have hsame : ∀ a b, engine.keysEqual a b = decide (a = b) := by
    intro a b
    rw [Bool.eq_iff_iff, decide_eq_true_iff]
    cases hengine
    exact ⟨Domain.keysEqual_postgres, fun h => h ▸ Engine.keysEqual_refl _ _⟩
  simp only [hsame, decide_eq_false_iff_not] at hdistinct ⊢
  refine filter_eq_toList_find? (hdistinct.imp fun {a b} hab ha => decide_eq_false fun hb => hab ?_)
  exact (of_decide_eq_true ha).trans hb.symm

/-! ## Snapshots that a server holds -/

/-- The key of a routine that tells overloads apart. -/
def StoredRoutine.specificKey (r : StoredRoutine) : TypeKey := ⟨r.schema, r.effectiveName⟩

/-- What the routine returns is written down only where a server tells it by its outputs: the routine
returns a record, its signature is not that of a table, and the columns are counted and may be null. -/
structure StoredRoutine.ReturnsOutputs (r : StoredRoutine) : Prop where
  returnType : r.returnType = some "record"
  resultSignature : r.resultSignature.bind TableSignature.parse? = none
  resultColumns : Postgres.CountedFrom 1 r.resultColumns

instance (r : StoredRoutine) : Decidable r.ReturnsOutputs :=
  decidable_of_iff (_ ∧ _ ∧ _)
    ⟨fun h => ⟨h.1, h.2.1, h.2.2⟩, fun h => ⟨h.returnType, h.resultSignature, h.resultColumns⟩⟩

/-- The snapshot is one that a PostgreSQL server can hold. -/
structure CatalogSnapshot.Servable (s : CatalogSnapshot) : Prop where
  engine : s.engine = .postgres
  tables : s.DistinctTables
  userTypes : s.DistinctUserTypes
  routines : s.routines.Pairwise fun a b => s.engine.keysEqual a.specificKey b.specificKey = false
  constraints : ∀ t ∈ s.tables, KeyConstraintRow.Named t.constraints
  outputs : ∀ r ∈ s.routines, r.resultColumns ≠ [] → r.ReturnsOutputs
  userTables : ∀ t ∈ s.tables, t.schema ∉ Postgres.systemSchemas
  userRoutines : ∀ r ∈ s.routines, r.schema ∉ Postgres.systemSchemas

namespace Postgres

/-- The server answers each statement of the catalog with the rows that describe the snapshot. -/
structure Serves {σ : Type} (ready : σ → Prop) (server : Server σ) (s : CatalogSnapshot) : Prop where
  tables : ∀ schemas, server.Answers ready ⟨Statements.tables, [.texts schemas]⟩
    (((s.tables.filter fun t => t.schema ∉ schemas).map StoredTable.row).map tableCells)
  columns : ∀ schema name, server.Answers ready ⟨Statements.columns, [.text schema, .text name]⟩
    ((named (·.row.key) s.tables schema name).flatMap fun t => t.columnRows.map columnCells)
  columnFlags : ∀ schema name,
    server.Answers ready ⟨Statements.columnFlags, [.text schema, .text name]⟩
      ((named (·.row.key) s.tables schema name).flatMap fun t => t.flagsRows.map columnFlagsCells)
  keyConstraints : ∀ schema name,
    server.Answers ready ⟨Statements.keyConstraints, [.text schema, .text name]⟩
      ((named (·.row.key) s.tables schema name).flatMap fun t => keyConstraintCells t.constraints)
  foreignKeys : ∀ schema name,
    server.Answers ready ⟨Statements.foreignKeys, [.text schema, .text name]⟩
      ((named (·.row.key) s.tables schema name).flatMap fun t => t.foreignKeys.map foreignKeyCells)
  routines : ∀ schemas, server.Answers ready ⟨Statements.routines, [.texts schemas]⟩
    (((s.routines.filter fun r => r.schema ∉ schemas).map StoredRoutine.row).map routineCells)
  parameters : ∀ schema name,
    server.Answers ready ⟨Statements.parameters, [.text schema, .text name]⟩
      ((named (·.specificKey) s.routines schema name).flatMap fun r =>
        r.parameterRows.map parameterCells)
  outParameters : ∀ schema name, ∃ rows,
    List.Forall₂ Outputs
      ((named (·.specificKey) s.routines schema name).flatMap (·.resultColumns)) rows ∧
    server.Answers ready ⟨Statements.outParameters, [.text schema, .text name]⟩ rows
  userType : ∀ schema name, server.Answers ready ⟨Statements.userType, [.text schema, .text name]⟩
    ((named (·.key) s.userTypes schema name).flatMap userTypeCells)

/-- The rows that describe what a snapshot says about a schema and a name, by statements. -/
def rowsAbout (s : CatalogSnapshot) (schema name : String) : List (String × List Cells) :=
  let tables := named (·.row.key) s.tables schema name
  let routines := named (·.specificKey) s.routines schema name
  [(Statements.columns, tables.flatMap fun t => t.columnRows.map columnCells),
   (Statements.columnFlags, tables.flatMap fun t => t.flagsRows.map columnFlagsCells),
   (Statements.keyConstraints, tables.flatMap fun t => keyConstraintCells t.constraints),
   (Statements.foreignKeys, tables.flatMap fun t => t.foreignKeys.map foreignKeyCells),
   (Statements.parameters, routines.flatMap fun r => r.parameterRows.map parameterCells),
   (Statements.outParameters, (routines.flatMap (·.resultColumns)).map (outputCells 1)),
   (Statements.userType, (named (·.key) s.userTypes schema name).flatMap userTypeCells)]

/-- The rows that describe what a snapshot says outside some schemas, by statements. -/
def rowsOutside (s : CatalogSnapshot) (schemas : List String) : List (String × List Cells) :=
  [(Statements.tables,
    ((s.tables.filter fun t => t.schema ∉ schemas).map StoredTable.row).map tableCells),
   (Statements.routines,
    ((s.routines.filter fun r => r.schema ∉ schemas).map StoredRoutine.row).map routineCells)]

/-- The rows for a statement. -/
def rowsFor (s : CatalogSnapshot) (statement : Statement) : List Cells :=
  let answers := match statement.arguments with
    | [.text schema, .text name] => rowsAbout s schema name
    | [.texts schemas] => rowsOutside s schemas
    | _ => []
  (answers.lookup statement.sql).getD []

/-- A server that holds a snapshot and nothing else. -/
def holding (s : CatalogSnapshot) : Server Unit where
  query statement := return rowsFor s statement
  execute _ := return 0
  ping := return ()

/-- Where the statements are different texts, each gets its own rows. -/
theorem lookup_of_mem {α : Type} {answers : List (String × α)} {sql : String} {rows : α}
    (hdistinct : (answers.map Prod.fst).Nodup) (h : (sql, rows) ∈ answers) :
    answers.lookup sql = some rows := by
  induction answers with
  | nil => cases h
  | cons first rest ih =>
      rw [List.map_cons, List.nodup_cons] at hdistinct
      obtain ⟨hfirst, hrest⟩ := hdistinct
      rcases List.mem_cons.1 h with rfl | hmem
      · exact List.lookup_cons_self
      · have hother : (sql == first.1) = false := by
          rw [beq_eq_false_iff_ne]
          intro hsame
          exact hfirst (hsame ▸ List.mem_map_of_mem hmem)
        rw [List.lookup_cons, hother]
        exact ih hrest hmem

theorem nodup_statements :
    [Statements.columns, Statements.columnFlags, Statements.keyConstraints, Statements.foreignKeys,
      Statements.parameters, Statements.outParameters, Statements.userType].Nodup := by
  simp [Statements.columns, Statements.columnFlags, Statements.keyConstraints,
    Statements.foreignKeys, Statements.parameters, Statements.outParameters, Statements.userType]

theorem holding_answers {s : CatalogSnapshot} {statement : Statement} {rows : List Cells}
    (h : rowsFor s statement = rows) : (holding s).Answers AnyValue statement rows := by
  intro state _
  exact ⟨state, congrArg (fun rows => (Except.ok rows, state)) h, trivial⟩

/-- Every snapshot is served by the server that holds it. -/
theorem serves_holding (s : CatalogSnapshot) : Serves AnyValue (holding s) s := by
  have habout : ∀ {sql schema name rows}, (sql, rows) ∈ rowsAbout s schema name →
      (holding s).Answers AnyValue ⟨sql, [.text schema, .text name]⟩ rows := by
    intro sql schema name rows hrows
    have hdistinct : ((rowsAbout s schema name).map Prod.fst).Nodup := nodup_statements
    refine holding_answers ?_
    change ((rowsAbout s schema name).lookup sql).getD [] = rows
    rw [lookup_of_mem hdistinct hrows, Option.getD_some]
  have houtside : ∀ {sql schemas rows}, (sql, rows) ∈ rowsOutside s schemas →
      (holding s).Answers AnyValue ⟨sql, [.texts schemas]⟩ rows := by
    intro sql schemas rows hrows
    have hdistinct : ((rowsOutside s schemas).map Prod.fst).Nodup := by
      change [Statements.tables, Statements.routines].Nodup
      simp [Statements.tables, Statements.routines]
    refine holding_answers ?_
    change ((rowsOutside s schemas).lookup sql).getD [] = rows
    rw [lookup_of_mem hdistinct hrows, Option.getD_some]
  constructor
  case tables => exact fun schemas => houtside (.head _)
  case routines => exact fun schemas => houtside (.tail _ (.head _))
  case columns => exact fun schema name => habout (.head _)
  case columnFlags => exact fun schema name => habout (.tail _ (.head _))
  case keyConstraints => exact fun schema name => habout (.tail _ (.tail _ (.head _)))
  case foreignKeys => exact fun schema name => habout (.tail _ (.tail _ (.tail _ (.head _))))
  case parameters =>
    exact fun schema name => habout (.tail _ (.tail _ (.tail _ (.tail _ (.head _)))))
  case outParameters =>
    intro schema name
    refine ⟨_, ?_, habout (.tail _ (.tail _ (.tail _ (.tail _ (.tail _ (.head _))))))⟩
    rw [List.forall₂_map_right_iff, List.forall₂_same]
    exact fun column _ => ⟨1, rfl⟩
  case userType =>
    exact fun schema name =>
      habout (.tail _ (.tail _ (.tail _ (.tail _ (.tail _ (.tail _ (.head _)))))))

end Postgres

/-! ## Answers -/

namespace CatalogSnapshot.Servable

variable {s : CatalogSnapshot} (hs : s.Servable)

include hs

/-- What is read from the rows about a table is what the snapshot says of it. -/
theorem read_tables {α : Type} {cells : StoredTable → List Cells} {f : List Cells → List α}
    {part : StoredTable → List α} (hnone : f [] = []) (hread : ∀ t ∈ s.tables, f (cells t) = part t)
    (row : TableRow) :
    f ((named (·.row.key) s.tables row.schema row.name).flatMap cells) = s.ofTable row part := by
  rw [named_eq_find? hs.engine hs.tables]
  change f ((s.table? row).toList.flatMap cells) = _
  unfold ofTable
  cases hfound : s.table? row with
  | none => exact hnone
  | some t =>
      have ht : t ∈ s.tables := List.mem_of_find?_eq_some hfound
      rw [Option.toList_some, List.flatMap_singleton]
      exact hread t ht

theorem read_userTypes (key : TypeKey) :
    Postgres.userTypeRow? key.schema key.name
        ((named (·.key) s.userTypes key.schema key.name).flatMap Postgres.userTypeCells) =
      s.userType? key.schema key.name := by
  rw [named_eq_find? hs.engine hs.userTypes]
  change Postgres.userTypeRow? key.schema key.name
    ((s.userType? key.schema key.name).toList.flatMap Postgres.userTypeCells) = _
  cases hfound : s.userType? key.schema key.name with
  | none => rfl
  | some t =>
      have hkey : t.key = key := Domain.keysEqual_postgres (hs.engine ▸ userType?_key hfound)
      rw [Option.toList_some, List.flatMap_singleton, ← hkey]
      exact Postgres.userTypeRow?_userTypeCells t

/-- The routine alone is selected by the name that tells overloads apart. -/
theorem named_routine {r : StoredRoutine} (hr : r ∈ s.routines) :
    named (·.specificKey) s.routines r.schema r.effectiveName = [r] := by
  have hself := s.engine.keysEqual_refl r.specificKey
  have hfound : (s.routines.find? fun x => s.engine.keysEqual x.specificKey r.specificKey) = some r :=
    find?_of_unique hr hself fun _ hmem hkey => eq_of_keysEqual hs.routines hmem hr hkey hself
  rw [named_eq_find? hs.engine hs.routines]
  change (s.routines.find? fun x => s.engine.keysEqual x.specificKey r.specificKey).toList = _
  rw [hfound]
  rfl

theorem distinctRoutines : s.DistinctRoutines := by
  refine hs.routines.imp fun {a b} hab hsame => ?_
  obtain ⟨hschema, _, hname⟩ := hsame
  unfold Engine.keysEqual StoredRoutine.specificKey at hab
  rw [hschema, hname, s.engine.namesEqual_refl] at hab
  cases hab

/-- Leaving out the schemas of the system as well changes nothing where nothing stands in them. -/
theorem isExcluded_eq {schema : String} (hschema : schema ∉ Postgres.systemSchemas)
    (schemas : List String) :
    (!s.isExcluded schemas schema) = decide (schema ∉ Postgres.systemSchemas ++ schemas) := by
  have hexcluded : s.isExcluded schemas schema = decide (schema ∈ schemas) := by
    unfold isExcluded
    rw [hs.engine, Bool.eq_iff_iff, decide_eq_true_iff]
    change (schemas.any fun e => e == schema) = true ↔ _
    rw [List.any_beq', List.contains_iff_mem]
  rw [hexcluded, ← decide_not, decide_eq_decide, List.mem_append, or_iff_right hschema]

/-- No columns are written down beside a table signature. -/
theorem storedResultColumns_of_signature {r : StoredRoutine} (hr : r ∈ s.routines)
    {columns : List ResultColumnRow}
    (hsignature : r.resultSignature.bind TableSignature.parse? = some columns) :
    s.storedResultColumns r = columns := by
  have hnone : r.resultColumns = [] := by
    by_contra hsome
    have houtputs := (hs.outputs r hr hsome).resultSignature
    rw [hsignature] at houtputs
    cases houtputs
  unfold storedResultColumns
  rw [hnone, hs.engine, hsignature]
  rfl

theorem storedResultColumns_of_none {r : StoredRoutine}
    (hsignature : r.resultSignature.bind TableSignature.parse? = none) :
    s.storedResultColumns r = r.resultColumns := by
  unfold storedResultColumns
  rw [hs.engine, hsignature]
  cases r.resultColumns with
  | nil => rfl
  | cons column rest => rfl

/-- The columns of a routine are counted where a server tells them by its outputs. -/
theorem countedFrom {r : StoredRoutine} (hr : r ∈ s.routines) :
    Postgres.CountedFrom 1 r.resultColumns := by
  by_cases hnone : r.resultColumns = []
  · rw [hnone]
    nofun
  · exact (hs.outputs r hr hnone).resultColumns

end CatalogSnapshot.Servable

namespace Postgres

variable {σ τ : Type} {ready : σ → Prop} {server : Server σ} {s : CatalogSnapshot}

section Answers

variable (hs : s.Servable) (h : Serves ready server s)

include hs h

theorem columns_lockstep (row : TableRow) :
    Lockstep (Open ready) AnyValue ((catalog server).columns row) (s.catalog.columns row) := by
  refine (ask_lockstep (h.columns row.schema row.name) _).map_pure ?_ trivial
  exact hs.read_tables rfl (fun t _ => leftInverse_columnRow.list_map t.columnRows) row

theorem columnFlags_lockstep (row : TableRow) :
    Lockstep (Open ready) AnyValue ((catalog server).columnFlags row)
      (s.catalog.columnFlags row) := by
  refine (ask_lockstep (h.columnFlags row.schema row.name) _).map_pure ?_ trivial
  exact hs.read_tables rfl (fun t _ => leftInverse_columnFlagsRow.list_map t.flagsRows) row

theorem keyConstraints_lockstep (row : TableRow) :
    Lockstep (Open ready) AnyValue ((catalog server).keyConstraints row)
      (s.catalog.keyConstraints row) := by
  refine (ask_lockstep (h.keyConstraints row.schema row.name) _).map_pure ?_ trivial
  exact hs.read_tables (f := fun rows => groupKeys (rows.map keyColumn)) rfl
    (fun t ht => groupKeys_keyConstraintCells (hs.constraints t ht)) row

theorem foreignKeys_lockstep (row : TableRow) :
    Lockstep (Open ready) AnyValue ((catalog server).foreignKeys row)
      (s.catalog.foreignKeys row) := by
  refine (ask_lockstep (h.foreignKeys row.schema row.name) _).map_pure ?_ trivial
  exact hs.read_tables rfl (fun t _ => leftInverse_foreignKeyRow.list_map t.foreignKeys) row

theorem userType_lockstep (schema name : String) :
    Lockstep (Open ready) AnyValue ((catalog server).userType schema name)
      (s.catalog.userType schema name) :=
  (ask_lockstep (h.userType schema name) _).map_pure (hs.read_userTypes ⟨schema, name⟩) trivial

theorem parameters_lockstep {r : StoredRoutine} (hr : r ∈ s.routines) :
    Lockstep (Open ready) AnyValue ((catalog server).parameters r.row)
      (s.catalog.parameters r.row) := by
  unfold CatalogSnapshot.catalog
  dsimp only
  rw [CatalogSnapshot.routine?_row hs.distinctRoutines hr]
  refine (ask_lockstep (h.parameters r.schema r.effectiveName) _).map_pure ?_ trivial
  rw [hs.named_routine hr, List.flatMap_singleton]
  exact leftInverse_parameterRow.list_map r.parameterRows

/-- A signature is read on either side. Else a record is told by its outputs, and what is no record has
no columns written down. -/
theorem resultColumns_lockstep {r : StoredRoutine} (hr : r ∈ s.routines) :
    Lockstep (Open ready) AnyValue ((catalog server).resultColumns r.row)
      (s.catalog.resultColumns r.row) := by
  have hstored : s.catalog.resultColumns r.row = pure (s.storedResultColumns r) :=
    congrArg pure (CatalogSnapshot.resultColumnsOf_row hs.distinctRoutines hr)
  rw [hstored]
  change Lockstep _ _ (resultColumns server r.row) _
  unfold resultColumns
  cases hsignature : r.row.resultSignature.bind TableSignature.parse? with
  | some columns =>
      rw [hs.storedResultColumns_of_signature hr hsignature]
      exact .pure trivial
  | none =>
      rw [hs.storedResultColumns_of_none hsignature]
      dsimp only
      split
      next =>
          obtain ⟨rows, hrows, hanswer⟩ := h.outParameters r.schema r.effectiveName
          rw [hs.named_routine hr, List.flatMap_singleton] at hrows
          exact (ask_lockstep hanswer _).map_pure (outputRowsFrom_eq hrows (hs.countedFrom hr)) trivial
      next hrecord =>
          have hnone : r.resultColumns = [] := by
            by_contra hsome
            exact hrecord (hs.outputs r hr hsome).returnType
          rw [hnone]
          exact .pure trivial

/-- The server and the snapshot answer alike about every table and every user-defined type, and about
every routine that is listed. -/
theorem served_agrees :
    (catalog server).Agrees (Open ready) (fun _ => True) (· ∈ s.routines.map StoredRoutine.row)
      s.catalog where
  engine := hs.engine.symm
  columns row _ := columns_lockstep hs h row
  columnFlags row _ := columnFlags_lockstep hs h row
  keyConstraints row _ := keyConstraints_lockstep hs h row
  foreignKeys row _ := foreignKeys_lockstep hs h row
  parameters := by
    rw [List.forall_mem_map]
    exact fun r hr => parameters_lockstep hs h hr
  resultColumns := by
    rw [List.forall_mem_map]
    exact fun r hr => resultColumns_lockstep hs h hr
  userType schema name := userType_lockstep hs h schema name

/-- The server and the snapshot list the same tables and routines outside the same schemas. -/
theorem served_lists (schemas : List String) :
    (catalog server).ListsAlike (Open ready) (fun _ => True) (· ∈ s.routines.map StoredRoutine.row)
      s.catalog schemas schemas where
  tables := by
    refine (ask_lockstep (h.tables (systemSchemas ++ schemas)) "tables").map_pure ?_ fun _ _ => trivial
    rw [leftInverse_tableRow.list_map]
    unfold CatalogSnapshot.tableRows
    rw [List.filter_congr fun t ht => hs.isExcluded_eq (hs.userTables t ht) schemas]
  routines := by
    refine (ask_lockstep (h.routines (systemSchemas ++ schemas)) "routines").map_pure ?_ ?_
    · rw [leftInverse_routineRow.list_map]
      unfold CatalogSnapshot.routineRows
      rw [List.filter_congr fun r hr => hs.isExcluded_eq (hs.userRoutines r hr) schemas]
    · intro row hrow
      unfold CatalogSnapshot.routineRows at hrow
      obtain ⟨r, hr, rfl⟩ := List.mem_map.1 hrow
      exact List.mem_map_of_mem (List.mem_filter.1 hr).1

end Answers

/-- Asked while its pool is open, a server gives the answers that the snapshot of its database gives:
the same tables and routines, the same rows about each of them, and the same user-defined types. So an
inspection gives the same domain or the same fault on either side, after the same warnings. -/
theorem served_alike (hs : s.Servable) (h : Serves ready server s) :
    (catalog server).Agrees (Open ready) (fun _ => True) (· ∈ s.routines.map StoredRoutine.row)
        s.catalog ∧
      (∀ schemas, (catalog server).ListsAlike (Open ready) (fun _ => True)
        (· ∈ s.routines.map StoredRoutine.row) s.catalog schemas schemas) ∧
      ∀ settings pool executed start, Open ready pool executed →
        (run (inspect (catalog server) settings) pool start).result =
            (run (inspect s.catalog settings) executed start).result ∧
          (run (inspect (catalog server) settings) pool start).log =
            (run (inspect s.catalog settings) executed start).log ∧
          (run (inspect (catalog server) settings) pool start).domain =
            (run (inspect s.catalog settings) executed start).domain := by
  refine ⟨served_agrees hs h, served_lists hs h, fun settings pool executed start hopen => ?_⟩
  have hinspect : Lockstep (Progress.Alike (Open ready)) AnyValue (inspect (catalog server) settings)
      (inspect s.catalog settings) :=
    inspect_lockstep (served_agrees hs h) (served_lists hs h settings.excludedSchemas) ⟨rfl, rfl⟩
  obtain ⟨hresult, hstate, _⟩ := hinspect ⟨pool, [], start⟩ ⟨executed, [], start⟩ ⟨hopen, rfl, rfl⟩
  exact ⟨hresult, hstate.log, hstate.domain⟩

/-- Patients with their wards. Functions find patients by a table signature and sum up a ward by
outputs; an address is a type of its own. -/
def clinic : CatalogSnapshot where
  engine := .postgres
  tables :=
    [⟨"public", "ward", none,
      [⟨"ward_id", "integer", none, none, none, false, true, false, none, none⟩,
       ⟨"floor", "integer", none, none, none, false, false, false, none, none⟩,
       ⟨"number", "integer", none, none, none, false, false, false, none, none⟩],
      [⟨"ward_pkey", .primary, ["ward_id"]⟩, ⟨"ward_place", .unique, ["floor", "number"]⟩], []⟩,
     ⟨"public", "patient", some "Everybody in the house.",
      [⟨"patient_id", "integer", none, none, none, false, true, false, none, none⟩,
       ⟨"name", "character varying", some 80, none, none, false, false, false, none, none⟩,
       ⟨"ward_id", "integer", none, none, none, true, false, false, none, none⟩],
      [⟨"patient_pkey", .primary, ["patient_id"]⟩],
      [⟨"patient_ward", "ward_id", "public", "ward", "ward_id"⟩]⟩]
  routines :=
    [⟨"public", "patient_find", some "patient_find_1", .function, some "record", true,
      some "TABLE(patient_id integer, name text)", none,
      [⟨"name", "text", none, false, false, false⟩], []⟩,
     ⟨"public", "ward_summary", some "ward_summary_2", .function, some "record", false, some "record",
      none, [⟨"ward_id", "integer", none, false, false, false⟩],
      [⟨"patients", 1, "bigint", true, none⟩, ⟨"oldest", 2, "character varying", true, some 80⟩]⟩,
     ⟨"public", "patient_address", none, .function, some "public.address", false, none, none,
      [⟨"patient_id", "integer", none, false, false, false⟩], []⟩]
  userTypes :=
    [⟨"public", "address", .composite, none, none,
      [⟨"street", 1, "text", true, none⟩, ⟨"city", 2, "character varying", true, some 40⟩]⟩,
     ⟨"public", "mood", .enum, none, some "As reported.", []⟩]

/-- The clinic is inspected on a server as it is from its snapshot. -/
theorem clinic_served :
    clinic.Servable ∧ Serves AnyValue (holding clinic) clinic ∧
      ∃ d, (run (inspect (catalog (holding clinic)) .standard) ⟨(), false⟩ default).result = .ok d ∧
        d.types.map (·.key.text) = ["public.ward", "public.patient"] ∧
        d.resultTypes.map (·.key.text) =
          ["public.patient_find_result", "public.ward_summary_result", "public.address"] := by
  have hs : clinic.Servable :=
    ⟨rfl, by decide, by decide, by decide, by decide, by decide +kernel, by decide, by decide⟩
  obtain ⟨d, hd, hfacts⟩ :
      ∃ d, (run (inspect clinic.catalog .standard) [] default).result = .ok d ∧
        d.types.map (·.key.text) = ["public.ward", "public.patient"] ∧
        d.resultTypes.map (·.key.text) =
          ["public.patient_find_result", "public.ward_summary_result", "public.address"] := by
    decide +kernel
  obtain ⟨_, _, hinspect⟩ := served_alike hs (serves_holding clinic)
  obtain ⟨hresult, _⟩ := hinspect .standard ⟨(), false⟩ [] default ⟨rfl, trivial⟩
  exact ⟨hs, serves_holding clinic, d, hresult.trans hd, hfacts⟩

end Postgres

end SchemaModel
