import SchemaModel.Proofs.Portable.Shapes

/-!
# `SchemaModel.Proofs.Portable.Returns` — what the routines of a portable database return

Either engine inspects a portable database, and what it makes of every routine can be told in words.

## Contents
- `Database.returns`: what a routine returns in an engine.
- **One routine.** `Reached`: what the domain is like while routines are loaded; result types have
  the names of routines' result types. `Routine.draft`: an operation before its return shape is
  known. `operation_stored`: a routine is read as its words say, and the domain stays like this.
- **All routines.** `inspect_stored`: so are all of them.
-/

namespace SchemaModel.Portable

open Inspection Offline

variable {engine : Engine} {db : Database} {r : Routine} {d : Domain}

/-! ## Return shapes by words -/

/-- What a routine with several columns returns in an engine: rows of the recognized table, else
rows of the result type. -/
def Database.typeReturns (db : Database) (engine : Engine) (r : Routine) : OperationReturn :=
  match db.recognized? engine r with
  | some t => .applicationType (keyOn engine t.name) !r.annotation.single
  | none => .customType (keyOn engine r.resultName) !r.annotation.single

/-- What a routine with columns returns in an engine. One column gives values. -/
def Database.rowReturns (db : Database) (engine : Engine) (r : Routine) : OperationReturn :=
  match db.shape r with
  | [f] => .primitive (f.field engine).valueType !r.annotation.single
  | _ => db.typeReturns engine r

/-- What a routine returns in an engine. -/
def Database.returns (db : Database) (engine : Engine) (r : Routine) : OperationReturn :=
  match r.output with
  | .values none _ => .nothing
  | .values (some t) returnsSet => .primitive (some (.of t.kind)) returnsSet
  | .rows _ _ _ => db.rowReturns engine r

/-- Rows of a result type are rows of the routine's own. -/
theorem returns_customKey {key : TypeKey} (h : (db.returns engine r).customKey? = some key) :
    key = keyOn engine r.resultName := by
  unfold Database.returns at h
  split at h
  · cases h
  · cases h
  · unfold Database.rowReturns at h
    split at h
    · cases h
    · unfold Database.typeReturns at h
      split at h
      · cases h
      · cases h
        rfl

/-! ## One routine -/

/-- The domain while routines are loaded: the types are those of the schema, and every result type
has the name of some routine's. -/
structure Reached (db : Database) (engine : Engine) (d : Domain) : Prop
    extends Knows d engine db.toSchema where
  results : ∀ key ∈ d.resultTypes.map ResultType.key,
    ∃ q ∈ db.routines, key = keyOn engine q.resultName

/-- What is registered under the names of routines' result types keeps the domain as it was. -/
theorem Reached.changes (h : Reached db engine d) {user : TypeKey} {labels : List TypeKey}
    {d' : Domain} (hchanges : Changes user d labels d')
    (hlabels : ∀ key ∈ labels, ∃ q ∈ db.routines, key = keyOn engine q.resultName) :
    Reached db engine d' := by
  induction hchanges with
  | nil _ => exact h
  | @cons d d₁ _ label _ head _ ih =>
      apply ih
      · constructor
        · exact ⟨head.frame.engine.trans h.sameEngine, head.frame.naming.trans h.sameNaming,
            head.frame.types.trans h.sameTypes⟩
        · intro key hkey
          rcases head.keys with hkeys | ⟨new, hnew, _, hkeys⟩
          · rw [hkeys] at hkey
            exact h.results key hkey
          · rw [hkeys, List.mem_append, List.mem_singleton] at hkey
            rcases hkey with hold | rfl
            · exact h.results key hold
            · apply hlabels
              rw [hnew]
              exact List.mem_append_left _ (List.mem_singleton_self key)
      · intro key hkey
        exact hlabels key (List.mem_append_right _ hkey)

theorem relatedType_fst (d : Domain) (op : TypeKey) (overrides : Option Attributes) :
    (relatedType d op overrides).1 = (overrides.bind Attributes.applicationType?).bind
      fun text => lookUpType? d text op.schema := by
  unfold relatedType
  cases overrides.bind Attributes.applicationType? with
  | none => rfl
  | some text =>
      dsimp only
      rw [Option.bind_some]
      cases lookUpType? d text op.schema with
      | none => rfl
      | some key => rfl

theorem related_stored (h : Reached db engine d) (hr : r ∈ db.routines) :
    related d (r.stored engine).row = db.aboutKey? engine r := by
  have hoverrides : overrides (r.stored engine).row = overridesIn (r.annotation.comment engine) :=
    parse_fst _ _
  unfold related Database.aboutKey? Routine.mentioned?
  rw [relatedType_fst, hoverrides, r.annotation.saysAbout]
  cases hm : r.annotation.about with
  | none => rfl
  | some m => exact lookUpType?_mention h.toKnows hr hm

/-- Inputs of shared types are read without a look at the domain's types. -/
theorem parameters_stored (s : CatalogSnapshot) (op : TypeKey) (h : d.engine = engine)
    (inputs : List Input) (order : Int) :
    ∃ ps, parameters s op
        (StoredRoutine.parameterRowsFrom order (inputs.map (Input.stored engine))) d =
      (.ok ps, d) := by
  induction inputs generalizing order with
  | nil => exact ⟨[], rfl⟩
  | cons p rest ih =>
      obtain ⟨more, hmore⟩ := ih (order + 1)
      have hfirst : ∃ first, parameter s op
          (StoredRoutine.parameterRow order (p.stored engine)) d = (.ok first, d) := by
        refine ⟨{ untypedParameter (StoredRoutine.parameterRow order (p.stored engine)) with
          valueType := some (.of p.type.kind) }, ?_⟩
        show (typedParameter op _ (d.engine.valueType? (p.type.native engine)), d) = _
        rw [h, p.type.valueType?_native engine]
        rfl
      obtain ⟨first, hfirst⟩ := hfirst
      refine ⟨first :: more, ?_⟩
      rw [List.map_cons]
      unfold StoredRoutine.parameterRowsFrom parameters
      rw [Build.bind_ok hfirst, Build.bind_ok hmore]
      rfl

/-- The operation of a routine before its return shape is known. -/
def Routine.draft (r : Routine) (engine : Engine) (db : Database) (ps : List Parameter) :
    Operation :=
  unshaped (r.stored engine).row ps (db.aboutKey? engine r)

theorem draft_attributes (engine : Engine) (db : Database) (r : Routine) (ps : List Parameter) :
    (r.draft engine db ps).attributes = overridesIn (r.annotation.comment engine) :=
  parse_fst _ _

theorem draft_singleResult (engine : Engine) (db : Database) (r : Routine) (ps : List Parameter) :
    (r.draft engine db ps).singleResult = r.annotation.single := by
  unfold Operation.singleResult
  rw [draft_attributes]
  exact r.annotation.saysSingle engine

theorem rowTypeKey_stored (h : Reached db engine d) (r : Routine) (ps : List Parameter) :
    rowTypeKey d (r.draft engine db ps) = keyOn engine r.resultName := by
  unfold rowTypeKey keyOn Routine.resultName
  rw [draft_attributes, r.annotation.saysResult, h.sameNaming]
  cases r.annotation.result with
  | some name => rfl
  | none =>
      have hconventional := Name.resultTypeName_text r.name engine.defaultNaming
      rw [Option.map_none, Option.getD_none, Option.getD_none]
      exact congrArg (TypeKey.mk engine.defaultNamespace) hconventional

/-- Of all result types, the one under a routine's name is its own. -/
theorem Reached.existing_key (h : Reached db engine d) (hr : r ∈ db.routines)
    {existing : ResultType}
    (hfind : d.findResultType? (keyOn engine r.resultName) = some existing) :
    existing.key = keyOn engine r.resultName := by
  have hsame := List.find?_some hfind
  have hmem := List.mem_of_find?_eq_some hfind
  obtain ⟨q, hq, hkey⟩ := h.results existing.key (List.mem_map_of_mem hmem)
  rw [hkey, h.sameEngine, keysEqual_keyOn, namesEqual_on db.resultNames engine
    (List.mem_map_of_mem hq) (List.mem_map_of_mem hr), decide_eq_true_eq] at hsame
  rw [hkey, hsame]

theorem namedRowShape_stored (h : Reached db engine d) (hr : r ∈ db.routines)
    (ps : List Parameter) (rows : List ResultColumnRow) :
    ∃ d', namedRowShape (r.draft engine db ps) rows d =
      (.ok (.customType (keyOn engine r.resultName) !r.annotation.single), d') := by
  unfold namedRowShape
  dsimp only
  rw [rowTypeKey_stored h, draft_singleResult]
  cases hfind : d.findResultType? (keyOn engine r.resultName) with
  | some existing =>
      dsimp only
      rw [h.existing_key hr hfind]
      exact ⟨_, rfl⟩
  | none => exact ⟨_, rfl⟩

section RowShape

variable {o : Operation} {rows : List ResultColumnRow} {fields : List Field}

theorem rowShape_single {f : Field}
    (hfields : (resultFields d.engine o.key.text rows).1 = [f]) :
    rowShape o rows d = (.ok (.primitive f.valueType !o.singleResult), d) := by
  unfold rowShape
  rw [hfields]

/-- No column and several columns take the same way. -/
theorem rowShape_recognized (hfields : (resultFields d.engine o.key.text rows).1 = fields)
    (hlength : fields.length ≠ 1) {key : TypeKey}
    (hfound : d.findTypeByFields? fields o (d.engine == .postgres) = some key) :
    rowShape o rows d = (.ok (.applicationType key !o.singleResult), d) := by
  unfold rowShape
  rw [hfields]
  rcases fields with _ | ⟨f, _ | ⟨g, more⟩⟩
  · dsimp only
    rw [hfound]
  · exact absurd rfl hlength
  · dsimp only
    rw [hfound]

theorem rowShape_named (hfields : (resultFields d.engine o.key.text rows).1 = fields)
    (hlength : fields.length ≠ 1)
    (hfound : d.findTypeByFields? fields o (d.engine == .postgres) = none) :
    rowShape o rows d = namedRowShape o rows d := by
  unfold rowShape
  rw [hfields]
  rcases fields with _ | ⟨f, _ | ⟨g, more⟩⟩
  · dsimp only
    rw [hfound]
  · exact absurd rfl hlength
  · dsimp only
    rw [hfound]

end RowShape

theorem Database.rowReturns_several (h : (db.shape r).length ≠ 1) :
    db.rowReturns engine r = db.typeReturns engine r := by
  unfold Database.rowReturns
  rcases hshape : db.shape r with _ | ⟨f, _ | ⟨g, more⟩⟩
  · rfl
  · rw [hshape] at h
    exact absurd rfl h
  · rfl

theorem rowShape_stored (h : Reached db engine d) (hr : r ∈ db.routines) (ps : List Parameter) :
    ∃ d', rowShape (r.draft engine db ps)
        ((db.contents r).output.columns.map (OutputColumn.row engine)) d =
      (.ok (db.rowReturns engine r), d') := by
  have hfields : (resultFields d.engine (r.draft engine db ps).key.text
      ((db.contents r).output.columns.map (OutputColumn.row engine))).1 =
        (db.shape r).map (FieldOutline.field engine) := by
    rw [h.sameEngine]
    exact resultFields_stored engine _ _
  by_cases hlength : (db.shape r).length = 1
  · obtain ⟨f, hshape⟩ := List.length_eq_one_iff.1 hlength
    rw [hshape, List.map_singleton] at hfields
    refine ⟨d, ?_⟩
    rw [rowShape_single hfields, draft_singleResult]
    unfold Database.rowReturns
    rw [hshape]
  · have hseveral : ((db.shape r).map (FieldOutline.field engine)).length ≠ 1 := by
      rw [List.length_map]
      exact hlength
    have hfound : d.findTypeByFields? ((db.shape r).map (FieldOutline.field engine))
        (r.draft engine db ps) (d.engine == .postgres) =
          (db.recognized? engine r).map fun t => keyOn engine t.name := by
      rw [h.sameEngine]
      exact findTypeByFields?_stored h.toKnows hr rfl rfl rfl
    rw [Database.rowReturns_several hlength]
    unfold Database.typeReturns
    cases hrecognized : db.recognized? engine r with
    | some t =>
        rw [hrecognized, Option.map_some] at hfound
        refine ⟨d, ?_⟩
        rw [rowShape_recognized hfields hseveral hfound, draft_singleResult]
    | none =>
        rw [hrecognized, Option.map_none] at hfound
        rw [rowShape_named hfields hseveral hfound]
        exact namedRowShape_stored h hr ps _

/-- Without columns, what is declared is nothing or a value. -/
theorem declaredShape_stored (s : CatalogSnapshot) (h : d.engine = engine) (ps : List Parameter)
    {type : Option SharedType} {returnsSet : Bool} (hr : r.output = .values type returnsSet) :
    declaredShape s (r.draft engine db ps) (r.stored engine).row d =
      (.ok (db.returns engine r), d) := by
  have htype : (r.stored engine).row.returnType = type.map fun t => t.native engine := by
    show (r.output.declares engine).returnType = _
    rw [hr]
    rfl
  have hset : (r.stored engine).row.returnsSet = returnsSet := by
    show (r.output.declares engine).returnsSet = _
    rw [hr]
    rfl
  unfold declaredShape Database.returns
  rw [htype, hset, h, hr]
  cases type with
  | none => cases engine <;> rfl
  | some t =>
      rw [Option.map_some, Option.getD_some, t.isVoid_native engine]
      dsimp only
      rw [t.isPseudoType_native engine, t.valueType?_native engine]
      rfl

theorem returnShape_stored (h : Reached db engine d) (hr : r ∈ db.routines) (ps : List Parameter) :
    ∃ d', returnShape (db.snapshot engine) (r.draft engine db ps) (r.stored engine).row d =
      (.ok (db.returns engine r), d') := by
  have hcolumns := db.contents_columns hr
  unfold returnShape
  rw [resultColumnsOf_stored engine hr, List.isEmpty_map]
  cases hout : r.output with
  | values type returnsSet =>
      have hnone : (db.contents r).output.columns = [] := by
        rw [hcolumns, hout]
        rfl
      rw [hnone, List.isEmpty_nil, if_pos rfl]
      exact ⟨d, declaredShape_stored _ h.sameEngine ps hout⟩
  | rows first rest declares =>
      have hsome : (db.contents r).output.columns.isEmpty = false := by
        rw [List.isEmpty_eq_false_iff, Ne, hcolumns, hout]
        exact List.cons_ne_nil first rest
      have hreturns : db.returns engine r = db.rowReturns engine r := by
        unfold Database.returns
        rw [hout]
      rw [hsome, hreturns]
      exact rowShape_stored h hr ps

/-- The operation is what the words of the routine say. -/
structure Database.Describes (db : Database) (engine : Engine) (r : Routine) (o : Operation) :
    Prop where
  name : o.name = r.name.on engine
  related : o.relatedType = db.aboutKey? engine r
  returns : o.returns = db.returns engine r

/-- A routine is read as its words say, and the domain stays as it was. -/
theorem operation_stored (h : Reached db engine d) (hr : r ∈ db.routines) :
    ∃ o d', operation (db.snapshot engine) (r.stored engine).row d = (.ok o, d') ∧
      db.Describes engine r o ∧ Reached db engine d' ∧ d'.operations = d.operations := by
  obtain ⟨ps, hps⟩ := parameters_stored (db.snapshot engine)
    ⟨(r.stored engine).row.schema, (r.stored engine).row.name⟩ h.sameEngine
    (db.contents r).inputs 1
  obtain ⟨d', hreturns⟩ := returnShape_stored h hr ps
  have hrelated : ∀ key, (r.draft engine db ps).relatedType = some key → d.LoadsType key := by
    intro key hkey
    have habout : related d (r.stored engine).row = some key := by
      rw [related_stored h hr]
      exact hkey
    exact related_loads habout
  obtain ⟨hchanges, _⟩ := returnShape_changes h.sameEngine hrelated hreturns
  obtain ⟨qs, hmatched, _⟩ := matchParameters_eq d'
    { r.draft engine db ps with returns := db.returns engine r }
  refine ⟨matchParameters d' { r.draft engine db ps with returns := db.returns engine r }, d',
    ?_, ?_, ?_, ?_⟩
  · have hinputs : parameters (db.snapshot engine)
        ⟨(r.stored engine).row.schema, (r.stored engine).row.name⟩
        (inputs (db.snapshot engine) (r.stored engine).row) d = (.ok ps, d) := by
      rw [inputs_stored engine hr]
      exact hps
    unfold operation operationAbout
    rw [related_stored h hr, Build.bind_ok hinputs]
    exact Build.bind_ok hreturns
  · rw [hmatched]
    exact ⟨rfl, rfl, rfl⟩
  · apply h.changes hchanges
    intro key hkey
    rw [Option.mem_toList] at hkey
    exact ⟨r, hr, returns_customKey hkey⟩
  · exact hchanges.frame.operations

/-! ## All routines -/

theorem operationStage_stored (h : Reached db engine d) {rest : List Routine}
    (hrest : ∀ r ∈ rest, r ∈ db.routines) :
    ∃ d' ops, operationStage (db.snapshot engine) (rest.map fun r => (r.stored engine).row) d =
        (.ok (), d') ∧
      Reached db engine d' ∧ d'.operations = d.operations ++ ops ∧
      List.Forall₂ (db.Describes engine) rest ops := by
  induction rest generalizing d with
  | nil => exact ⟨d, [], rfl, h, (List.append_nil _).symm, .nil⟩
  | cons r more ih =>
      obtain ⟨o, d₁, hrun, hdescribes, hreached, hops⟩ :=
        operation_stored h (hrest r List.mem_cons_self)
      have hpushed : Reached db engine { d₁ with operations := d₁.operations ++ [o] } :=
        ⟨⟨hreached.sameEngine, hreached.sameNaming, hreached.sameTypes⟩, hreached.results⟩
      obtain ⟨d', ops, hstage, hend, hall, hdescribed⟩ :=
        ih hpushed fun q hq => hrest q (List.mem_cons_of_mem r hq)
      refine ⟨d', o :: ops, ?_, hend, ?_, .cons hdescribes hdescribed⟩
      · rw [List.map_cons]
        unfold operationStage
        rw [Build.bind_ok hrun, Build.act_bind]
        exact hstage
      · rw [hall]
        dsimp only
        rw [hops, List.append_assoc, List.singleton_append]

theorem routineRows_stored (db : Database) (engine : Engine) :
    (db.snapshot engine).routineRows [] = db.routines.map fun r => (r.stored engine).row := by
  have hkeep : (db.snapshot engine).routines.filter
      (fun r => !(db.snapshot engine).isExcluded [] r.schema) = (db.snapshot engine).routines :=
    List.filter_eq_self.2 fun _ _ => rfl
  unfold CatalogSnapshot.routineRows
  rw [hkeep]
  show (db.routines.map (Routine.stored engine)).map StoredRoutine.row = _
  rw [List.map_map]
  rfl

/-- Either engine reads a portable database, and every routine as its words say. -/
theorem inspect_stored (db : Database) (engine : Engine) (settings : Settings)
    (executed : List String) (start : Domain) :
    ∃ d, (run (inspect (db.snapshot engine).catalog (customary settings)) executed start).result =
        .ok d ∧
      Reached db engine d ∧ List.Forall₂ (db.Describes engine) db.routines d.operations := by
  have hreached : Reached db engine (domainOf engine (customary settings) db.outlines) := by
    refine ⟨⟨rfl, rfl, rfl⟩, ?_⟩
    intro key hkey
    cases hkey
  obtain ⟨d, ops, hstage, hend, hall, hdescribed⟩ :=
    operationStage_stored hreached fun r hr => hr
  refine ⟨d, ?_, hend, ?_⟩
  · rw [inspect_eq_ok]
    refine ⟨_, typeStage_stored ⟨rfl, rfl⟩ rfl start, ?_⟩
    show operationStage _ ((db.snapshot engine).routineRows []) _ = _
    rw [routineRows_stored]
    exact hstage
  · rw [hall]
    exact hdescribed

end SchemaModel.Portable
