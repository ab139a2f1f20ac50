import SchemaModel.Catalog.Offline
import SchemaModel.Inspection.Inspector
import SchemaModel.Proofs.Inspection.Build

/-!
# `SchemaModel.Proofs.Inspection.Offline` — inspecting a snapshot

A snapshot answers every question by a function of the question. What is left of an inspection once
the answers are put in and the reports are left out is given here, stage by stage, as functions over
the domain; each is shown to be what the stage yields.

## Contents
- **Tables.** `tableType`, `tableStage`, `referenceStage`, `typeStage`.
- **Operations.** `userShape`, `parameter`, `rowShape`, `declaredShape`, `operation`,
  `operationStage`.
- `inspection`: both stages; `inspect_result`, `inspect_eq_ok` and `inspectTypes_eq_ok` say that
  whole runs end with what they give.
- `orders`: a small database whose inspection succeeds.
-/

namespace SchemaModel.Offline

open Inspection

variable (s : CatalogSnapshot)

/-! ## Tables -/

/-- The type of the table that a row names. -/
def tableType (row : TableRow) : Outcome ApplicationType :=
  let table := row.fullName
  let fields := (columnFields s.engine table (s.ofTable row StoredTable.columnRows)).1
  applyConstraints s.engine table
    ⟨row.name, row.schema,
      (applyFlags s.engine table fields (s.ofTable row StoredTable.flagsRows)).1, [],
      (Attributes.parse row.description table).1⟩
    (s.ofTable row StoredTable.constraints)

/-- The types of tables, and the foreign keys that wait for them. -/
def tableStage : List TableRow → Build (List (TypeKey × List ForeignKeyRow))
  | [] => return []
  | row :: rest => do
    let t ← Build.outcome (tableType s row)
    Build.act fun d => { d with types := d.types ++ [t] }
    return (t.key, s.ofTable row StoredTable.foreignKeys) :: (← tableStage rest)

/-- One foreign key, on the domain. -/
def reference (owner : TypeKey) (fk : ForeignKeyRow) : Build Unit := fun d =>
  match resolveForeignKey d owner fk with
  | .ok (d', _) => (.ok (), d')
  | .error e => (.error e, d)

/-- The foreign keys of one table. -/
def references (owner : TypeKey) : List ForeignKeyRow → Build Unit
  | [] => return ()
  | fk :: rest => do
    reference owner fk
    references owner rest

/-- The foreign keys of every table. -/
def referenceStage : List (TypeKey × List ForeignKeyRow) → Build Unit
  | [] => return ()
  | (owner, foreignKeys) :: rest => do
    references owner foreignKeys
    referenceStage rest

/-- Everything that the tables give. -/
def typeStage (settings : Settings) : Build Unit := do
  Build.act fun _ => blankDomain s.engine settings
  referenceStage (← tableStage s (s.tableRows settings.excludedSchemas))

/-! ## Operations -/

/-- What a user-defined type stands for; `user` becomes one of its users. -/
def userShape (key user : TypeKey) : Build UserTypeShape := fun d =>
  match d.findResultType? key with
  | some existing =>
    (.ok (.rows existing.key), d.modifyResultType key fun r => r.addOperation user)
  | none =>
    match s.userType? key.schema key.name with
    | none => (.error (.unknownUserType key.schema key.name), d)
    | some row =>
      match row.kind with
      | .composite =>
        let result := (compositeType d row user).1
        (.ok (.rows result.key), { d with resultTypes := d.resultTypes ++ [result] })
      | .domain => (.ok (.value (d.engine.valueType? (row.baseType.getD ""))), d)
      | .enum => (.ok (.value none), d)

/-- A parameter before its type is known. -/
def untypedParameter (row : ParameterRow) : Parameter :=
  { Parameter.blank row.name row.ordinal row.nativeType with
    hasDefault := row.hasDefault
    isRequired := !row.hasDefault }

/-- A parameter whose type has been looked up. -/
def shapedParameter (op : TypeKey) (row : ParameterRow) : UserTypeShape → Build Parameter
  | .rows key => return { untypedParameter row with
      valueType := some (.of .resultType), resultType := some key }
  | .value valueType => Build.outcome (typedParameter op (untypedParameter row) valueType)

/-- The parameter of an input. -/
def parameter (op : TypeKey) (row : ParameterRow) : Build Parameter :=
  if row.isUserDefined then do
    shapedParameter op row (← userShape s ⟨row.typeSchema.getD op.schema, row.nativeType⟩ op)
  else fun d => (typedParameter op (untypedParameter row) (d.engine.valueType? row.nativeType), d)

/-- The parameters of inputs. -/
def parameters (op : TypeKey) : List ParameterRow → Build (List Parameter)
  | [] => return []
  | row :: rest => do
    let p ← parameter s op row
    return p :: (← parameters op rest)

/-- The domain after what a type knows about its fields was copied onto a result type. -/
def widened (d : Domain) (result : TypeKey) : Option TypeKey → Domain
  | none => d
  | some source => (d.widenResult result source).1

/-- The result type made of the columns that an operation returns. -/
def synthesized (d : Domain) (op : Operation) (rows : List ResultColumnRow) : ResultType :=
  { ResultType.blank (rowTypeKey d op) false with
    fields := (resultFields d.engine op.key.text rows).1
    relatedType := op.relatedType
    operations := [op.key] }

/-- The return shape of an operation with several output columns, where no table has it. -/
def namedRowShape (op : Operation) (rows : List ResultColumnRow) : Build OperationReturn := fun d =>
  let key := rowTypeKey d op
  match d.findResultType? key with
  | some existing =>
    (.ok (.customType existing.key !op.singleResult),
      d.modifyResultType key fun r => r.addOperation op.key)
  | none =>
    (.ok (.customType key !op.singleResult),
      widened { d with resultTypes := d.resultTypes ++ [synthesized d op rows] } key op.relatedType)

/-- The return shape of an operation with output columns. -/
def rowShape (op : Operation) (rows : List ResultColumnRow) : Build OperationReturn := fun d =>
  match (resultFields d.engine op.key.text rows).1 with
  | [single] => (.ok (.primitive single.valueType !op.singleResult), d)
  | fields =>
    match d.findTypeByFields? fields op (d.engine == .postgres) with
    | some key => (.ok (.applicationType key !op.singleResult), d)
    | none => namedRowShape op rows d

/-- The return shape of an operation whose declared type has been looked up. -/
def resolvedShape (op : Operation) (returnsSet : Bool) : UserTypeShape → Build OperationReturn
  | .rows key => fun d => (.ok (.customType key returnsSet), widened d key op.relatedType)
  | .value valueType => return .primitive valueType returnsSet

/-- The return shape of an operation without output columns. -/
def declaredShape (op : Operation) (row : RoutineRow) : Build OperationReturn := fun d =>
  if d.engine.isVoid row.returnType then (.ok .nothing, d)
  else
    let returnType := row.returnType.getD ""
    if isPseudoType returnType then (.ok (.primitive none row.returnsSet), d)
    else match d.engine.valueType? returnType with
      | some valueType => (.ok (.primitive (some valueType) row.returnsSet), d)
      | none =>
        let key := typeNameKey returnType op.schema
        match d.findType? key with
        | some t => (.ok (.applicationType t.key row.returnsSet), d)
        | none => (userShape s key op.key >>= resolvedShape op row.returnsSet) d

/-- What an operation returns. -/
def returnShape (op : Operation) (row : RoutineRow) : Build OperationReturn :=
  if (s.resultColumnsOf row).isEmpty then declaredShape s op row
  else rowShape op (s.resultColumnsOf row)

/-- The inputs of the routine that a row names. -/
def inputs (row : RoutineRow) : List ParameterRow :=
  match s.routine? row with
  | some r => r.parameterRows
  | none => []

/-- The overrides of a routine. -/
def overrides (row : RoutineRow) : Option Attributes :=
  (Attributes.parse row.description row.fullName).1

/-- The table that a routine is about, by its overrides. -/
def related (d : Domain) (row : RoutineRow) : Option TypeKey :=
  (relatedType d ⟨row.schema, row.name⟩ (overrides row)).1

/-- The operation of a routine before its return shape is known. -/
def unshaped (row : RoutineRow) (ps : List Parameter) (about : Option TypeKey) : Operation :=
  ⟨row.name, row.schema, row.specificName, row.kind, ps, .nothing, overrides row, about⟩

/-- The operation of a routine that is about a known table, or about none. -/
def operationAbout (row : RoutineRow) (about : Option TypeKey) : Build Operation := do
  let ps ← parameters s ⟨row.schema, row.name⟩ (inputs s row)
  let returns ← returnShape s (unshaped row ps about) row
  fun d => (.ok (matchParameters d { unshaped row ps about with returns := returns }), d)

/-- The operation of a routine. -/
def operation (row : RoutineRow) : Build Operation := fun d =>
  operationAbout s row (related d row) d

/-- The operations of routines, one after the other. -/
def operationStage : List RoutineRow → Build Unit
  | [] => return ()
  | row :: rest => do
    let op ← operation s row
    Build.act fun d => { d with operations := d.operations ++ [op] }
    operationStage rest

/-- The domain that both stages give. -/
def inspection (settings : Settings) : Build Domain := do
  typeStage s settings
  operationStage s (s.routineRows settings.excludedSchemas)
  Build.current

/-! ## What the stages yield -/

section Stages

variable {s} {d : Domain}

theorem loadTable_yields (row : TableRow) :
    Yields d (loadTable s.catalog row) (Build.outcome (tableType s row) d) :=
  .warnAll <| .ask <| .warnAll <| .ask <| .warnAll <| .ask <| .outcome _

theorem loadTables_yields (rows : List TableRow) :
    Yields d (loadTables s.catalog rows) (tableStage s rows d) := by
  induction rows generalizing d with
  | nil => exact .pure _
  | cons row rest ih =>
      apply Yields.bind (loadTable_yields row)
      intro t d' _
      rw [Build.act_bind]
      exact .ask (.change (.bind ih fun _ _ _ => .pure _))

theorem resolveForeignKeys_yields (owner : TypeKey) (fks : List ForeignKeyRow) :
    Yields (σ := List String) d (resolveForeignKeys owner fks) (references owner fks d) := by
  induction fks generalizing d with
  | nil => exact .pure _
  | cons fk rest ih =>
      unfold references resolveForeignKeys
      refine .getDomain ?_
      cases h : resolveForeignKey d owner fk with
      | error e =>
          have he : reference owner fk d = (.error e, d) := by simp only [reference, h]
          rw [Build.bind_error he]
          exact .lift_error e _
      | ok made =>
          have hm : reference owner fk d = (.ok (), made.1) := by simp only [reference, h]
          rw [Build.bind_ok hm]
          exact .lift (.setDomain (.warnAll ih))

theorem resolveAll_yields (pending : List (TypeKey × List ForeignKeyRow)) :
    Yields (σ := List String) d (resolveAll pending) (referenceStage pending d) := by
  induction pending generalizing d with
  | nil => exact .pure _
  | cons first rest ih => exact .bind (resolveForeignKeys_yields first.1 first.2) fun _ _ _ => ih

theorem loadTypes_yields (settings : Settings) :
    Yields d (loadTypes s.catalog settings) (typeStage s settings d) := by
  unfold typeStage
  rw [Build.act_bind]
  exact .setDomain (.ask (.bind (loadTables_yields _) fun pending _ _ => resolveAll_yields pending))

theorem resolveUserType_yields (key user : TypeKey) :
    Yields d (resolveUserType s.catalog key user) (userShape s key user d) := by
  unfold resolveUserType userShape
  refine .getDomain ?_
  cases d.findResultType? key with
  | some existing => exact .setDomain (.pure _)
  | none =>
      refine .ask ?_
      cases s.userType? key.schema key.name with
      | none => exact .throw _
      | some row =>
          dsimp only
          cases row.kind with
          | composite => 
            rcases compositeType d row user with ⟨result, warnings⟩
            exact .warnAll (.setDomain (.pure _))
          | domain =>
              dsimp only
              cases d.engine.valueType? (row.baseType.getD "") with
              | some valueType => exact .pure _
              | none => exact .warn (.pure _)
          | enum => exact .warn (.pure _)

theorem loadParameter_yields (op : TypeKey) (row : ParameterRow) :
    Yields d (loadParameter s.catalog op row) (parameter s op row d) := by
  unfold loadParameter parameter
  refine .getDomain ?_
  dsimp only
  split
  · refine .bind (resolveUserType_yields _ op) ?_
    intro shape d' _
    cases shape with
    | rows key => exact .pure _
    | value valueType => exact .outcome _
  · exact .outcome _

theorem loadParameters_yields (op : TypeKey) (rows : List ParameterRow) :
    Yields d (loadParameters s.catalog op rows) (parameters s op rows d) := by
  induction rows generalizing d with
  | nil => exact .pure _
  | cons row rest ih =>
      exact .bind (loadParameter_yields op row) fun _ _ _ => .bind ih fun _ _ _ => .pure _

theorem widen_bind_yields {α : Type} {key : TypeKey} {about : Option TypeKey}
    {k : Unit → Inspect (List String) α} {r : Outcome α × Domain}
    (hk : Yields (widened d key about) (k ()) r) : Yields d (widen key about >>= k) r := by
  unfold widened at hk
  cases about with
  | none => exact fun catalog log => hk catalog log
  | some source =>
      intro catalog log
      exact hk catalog (log ++ (d.widenResult key source).2)

theorem rowReturn_yields (op : Operation) (rows : List ResultColumnRow) :
    Yields (σ := List String) d (rowReturn op rows) (rowShape op rows d) := by
  unfold rowReturn rowShape
  refine .getDomain ?_
  unfold namedRowShape synthesized
  rcases resultFields d.engine op.key.text rows with ⟨fields, warnings⟩
  refine .warnAll ?_
  rcases fields with _ | ⟨first, _ | ⟨second, rest⟩⟩
  case cons.nil => exact .pure _
  -- No column and several columns take the same way.
  all_goals
    dsimp only
    generalize d.findTypeByFields? _ op (d.engine == .postgres) = found
    cases found with
    | some key => exact .pure _
    | none =>
        dsimp only
        cases d.findResultType? (rowTypeKey d op) with
        | some existing => exact .setDomain (.pure _)
        | none => exact .setDomain (widen_bind_yields (.pure _))

theorem declaredReturn_yields (op : Operation) (row : RoutineRow) :
    Yields d (declaredReturn s.catalog op row) (declaredShape s op row d) := by
  unfold declaredReturn declaredShape
  refine .getDomain ?_
  dsimp only
  split
  · exact .pure _
  split
  · exact .warn (.pure _)
  cases d.engine.valueType? (row.returnType.getD "") with
  | some valueType => exact .pure _
  | none =>
      dsimp only
      cases d.findType? (typeNameKey (row.returnType.getD "") op.schema) with
      | some t => exact .pure _
      | none =>
          refine .bind (resolveUserType_yields _ op.key) ?_
          intro shape d' _
          cases shape with
          | rows key => exact widen_bind_yields (.pure _)
          | value valueType => exact .pure _

theorem inferReturn_yields (op : Operation) (row : RoutineRow) :
    Yields d (inferReturn s.catalog op row) (returnShape s op row d) := by
  unfold inferReturn returnShape
  refine .ask ?_
  split
  · exact declaredReturn_yields op row
  · exact rowReturn_yields op _

theorem loadOperation_yields (row : RoutineRow) :
    Yields d (loadOperation s.catalog row) (operation s row d) := by
  unfold loadOperation
  refine .warnAll (.getDomain (.warnAll (.ask ?_)))
  refine .bind (loadParameters_yields _ (inputs s row)) fun ps d' _ => ?_
  refine .bind (inferReturn_yields _ row) fun returns d'' _ => ?_
  exact .getDomain (.pure _)

theorem loadEach_yields (rows : List RoutineRow) :
    Yields d (loadEach s.catalog rows) (operationStage s rows d) := by
  induction rows generalizing d with
  | nil => exact .pure _
  | cons row rest ih =>
      refine .bind (loadOperation_yields row) fun op d' _ => ?_
      rw [Build.act_bind]
      exact .change ih

theorem loadOperations_yields (settings : Settings) :
    Yields d (loadOperations s.catalog settings)
      (operationStage s (s.routineRows settings.excludedSchemas) d) := by
  unfold loadOperations
  rw [← Build.bind_unit (operationStage s _) d]
  refine .ask (.bind (loadEach_yields _) fun _ d' _ => .getDomain ?_)
  dsimp only
  split
  · exact fun _ log => ⟨log ++ [.incompleteReturns (incompleteCount d')], rfl⟩
  · exact .pure _

theorem inspect_yields (settings : Settings) :
    Yields d (inspect s.catalog settings) (inspection s settings d) := by
  refine .bind (loadTypes_yields settings) fun _ d' _ => ?_
  refine .bind (loadOperations_yields settings) fun _ d'' _ => ?_
  exact .getDomain (.warnAll (.warnAll (.pure _)))

end Stages

/-! ## Whole runs -/

variable {s} {settings : Settings} {executed : List String} {start d : Domain}

theorem inspect_result :
    (run (inspect s.catalog settings) executed start).result = (inspection s settings start).1 := by
  obtain ⟨log, h⟩ := inspect_yields (s := s) (d := start) settings executed []
  unfold run
  rw [h]

/-- An inspection runs no statement, whether it succeeds or not. -/
theorem inspect_executed :
    (run (inspect s.catalog settings) executed start).catalog = executed := by
  obtain ⟨log, h⟩ := inspect_yields (s := s) (d := start) settings executed []
  unfold run
  rw [h]

/-- A whole run succeeds exactly when both stages do, one after the other. -/
theorem inspect_eq_ok :
    (run (inspect s.catalog settings) executed start).result = .ok d ↔
      ∃ d₀, typeStage s settings start = (.ok (), d₀) ∧
        operationStage s (s.routineRows settings.excludedSchemas) d₀ = (.ok (), d) := by
  rw [inspect_result]
  unfold inspection
  constructor
  · intro h
    have hrun : (inspection s settings) start = (.ok d, (inspection s settings start).2) :=
      Prod.ext h rfl
    obtain ⟨_, d₀, htypes, hrest⟩ := Build.bind_eq_ok.1 hrun
    obtain ⟨_, d₁, hops, hlast⟩ := Build.bind_eq_ok.1 hrest
    cases hlast
    exact ⟨d₀, htypes, hops⟩
  · rintro ⟨d₀, htypes, hops⟩
    rw [Build.bind_ok htypes, Build.bind_ok hops]
    rfl

theorem inspectTypes_result :
    (run (inspectTypes s.catalog settings) executed start).result =
      ((typeStage s settings >>= fun _ => Build.current) start).1 := by
  have hy : Yields start (inspectTypes s.catalog settings)
      ((typeStage s settings >>= fun _ => Build.current) start) :=
    .bind (loadTypes_yields settings) fun _ _ _ => .getDomain (.pure _)
  obtain ⟨log, h⟩ := hy executed []
  unfold run
  rw [h]

/-- The tables alone give a domain exactly when their stage succeeds with it. -/
theorem inspectTypes_eq_ok :
    (run (inspectTypes s.catalog settings) executed start).result = .ok d ↔
      typeStage s settings start = (.ok (), d) := by
  rw [inspectTypes_result]
  constructor
  · intro hr
    obtain ⟨_, d₀, htypes, hlast⟩ := Build.bind_eq_ok.1 (Prod.ext hr rfl)
    cases hlast
    exact htypes
  · intro htypes
    rw [Build.bind_ok htypes]
    rfl

/-- They fail as their stage does. -/
theorem inspectTypes_eq_error {e : Fault}
    (h : (run (inspectTypes s.catalog settings) executed start).result = .error e) :
    ∃ d, typeStage s settings start = (.error e, d) := by
  rw [inspectTypes_result] at h
  rcases hstage : typeStage s settings start with ⟨e' | _, d⟩
  · rw [Build.bind_error hstage] at h
    cases h
    exact ⟨d, rfl⟩
  · rw [Build.bind_ok hstage] at h
    cases h

/-! ## A small database -/

/-- Two tables, where the first refers to the second, and a routine that takes rows of a composite
type and returns rows which no table has. Names are not always written in one letter case. -/
def orders : CatalogSnapshot where
  engine := .sqlServer
  tables :=
    [⟨"dbo", "Order", none,
      [⟨"OrderId", "int", none, none, none, false, true, false, none, none⟩,
       ⟨"CustomerId", "int", none, none, none, false, false, false, none, none⟩],
      [⟨"PK_Order", .primary, ["OrderId"]⟩],
      [⟨"FK_Order_Customer", "CustomerId", "dbo", "customer", "customerid"⟩]⟩,
     ⟨"dbo", "Customer", none,
      [⟨"CustomerId", "int", none, none, none, false, true, false, none, none⟩],
      [⟨"PK_Customer", .primary, ["customerId"]⟩], []⟩]
  routines :=
    [⟨"dbo", "OrderSave", none, .procedure, none, false, none,
      some "\x7b\"applicationtype\": \"order\"\x7d",
      [⟨"OrderId", "int", none, false, false, false⟩,
       ⟨"Lines", "OrderLine", none, true, false, false⟩],
      [⟨"OrderId", 1, "int", false, none⟩, ⟨"Total", 2, "money", false, none⟩]⟩]
  userTypes :=
    [⟨"dbo", "OrderLine", .composite, none, none, [⟨"Sku", 1, "nvarchar", false, some 20⟩]⟩]

theorem orders_inspected :
    ∃ d, (run (inspect orders.catalog Settings.standard) [] default).result = .ok d := by
  have hok : (run (inspect orders.catalog Settings.standard) [] default).result.isOk = true := by
    decide +kernel
  cases h : (run (inspect orders.catalog Settings.standard) [] default).result with
  | ok d => exact ⟨d, rfl⟩
  | error e =>
      rw [h] at hok
      cases hok

end SchemaModel.Offline
