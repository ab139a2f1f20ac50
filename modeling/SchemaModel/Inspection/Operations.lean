import SchemaModel.Inspection.Progress

/-!
# `SchemaModel.Inspection.Operations` — routines into operations

Every routine becomes an operation with typed parameters and a return shape. Shapes that no table
has become result types of the domain on the way.

## Contents
- **Names in texts.** `splitTypeName`, `lookUpType?`, `relatedType`.
- **User-defined types.** `resolveUserType` finds a composite among the result types or loads it; a
  domain stands for its base type, and an enum has no value type.
- `loadParameter`: an input with its type.
- **Return shapes.** `rowReturn` from output columns, `declaredReturn` from the declared type,
  `inferReturn` from either.
- `matchParameters`: copies the shape of fields onto the parameters that carry them.
- `loadOperations`: the whole stage.
-/

namespace SchemaModel.Inspection

open Inspect

variable {σ : Type}

/-! ## Names in texts -/

/-- Declared return types that say nothing about rows. -/
def pseudoTypes : List String :=
  ["record", "table", "any", "anyelement", "anyarray", "anynonarray", "anyenum", "anycompatible",
   "internal"]

/-- The declared type says nothing about rows. -/
def isPseudoType (nativeType : String) : Bool :=
  pseudoTypes.contains (Text.lowercase (Text.trimmed nativeType))

/-- The schema, when one is given, and the name in a text; the first point divides them, and both
must be there. -/
def splitTypeName (text : String) : Option String × String :=
  match Text.breakAt? (· == '.') text.toList with
  | some (schema, _, name) =>
    if schema.isEmpty || name.isEmpty then (none, text)
    else (some (String.ofList schema), String.ofList name)
  | none => (none, text)

/-- The key of a type named in a text, in a schema unless the text gives one. -/
def typeNameKey (text schema : String) : TypeKey :=
  let (given, name) := splitTypeName text
  ⟨given.getD schema, name⟩

/-- The type that an override names: under the engine's comparison, else the only one that agrees up
to the case of ASCII letters. -/
def lookUpType? (d : Domain) (text schema : String) : Option TypeKey :=
  let key := typeNameKey text schema
  match d.findType? key with
  | some t => some t.key
  | none =>
    match d.types.filter fun t =>
      Text.eqIgnoreAsciiCase t.schema key.schema && Text.eqIgnoreAsciiCase t.name key.name with
    | [t] => some t.key
    | _ => none

/-- The type that an operation's overrides say it is about, with a warning when there is none of
that name. -/
def relatedType (d : Domain) (op : TypeKey) (overrides : Option Attributes) :
    Option TypeKey × List Warning :=
  match overrides.bind Attributes.applicationType? with
  | none => (none, [])
  | some text =>
    match lookUpType? d text op.schema with
    | some key => (some key, [])
    | none => (none, [.unknownRelatedType op.text text])

/-! ## Result types -/

/-- The field of a result column, with its warnings. -/
def resultField (engine : Engine) (owner : String) (row : ResultColumnRow) :
    Field × List Warning :=
  let valueType := engine.valueType? row.nativeType
  let field := ({ Field.blank row.name row.ordinal row.nativeType with
    valueType := valueType }).setRequired !row.isNullable
  ({ field with size := row.size },
    if valueType.isNone then [.unmappedResultColumn owner row.name row.nativeType] else [])

/-- The fields of result columns, with their warnings in order. -/
def resultFields (engine : Engine) (owner : String) (rows : List ResultColumnRow) :
    List Field × List Warning :=
  let made := rows.map (resultField engine owner)
  (made.map Prod.fst, made.flatMap Prod.snd)

/-- The result type of a composite, with its first user. -/
def compositeType (d : Domain) (row : UserTypeRow) (user : TypeKey) :
    ResultType × List Warning :=
  let blank := ResultType.blank ⟨row.schema, row.name⟩ true
  let owner := blank.key.text
  let (overrides, parseWarnings) := Attributes.parse row.description owner
  let (fields, fieldWarnings) := resultFields d.engine owner row.columns
  let related := (overrides.bind Attributes.applicationType?).bind fun text =>
    lookUpType? d text row.schema
  ({ blank with
      attributes := overrides
      fields := fields
      relatedType := related
      operations := [user] },
    parseWarnings ++ fieldWarnings)

/-- What the name of a user-defined type stands for: rows of a result type, or single values. -/
inductive UserTypeShape where
  | rows (key : TypeKey)
  | value (type : Option ValueType)

/-- Finds what a user-defined type stands for and records `user` as one of its users. -/
def resolveUserType (catalog : Catalog σ) (key user : TypeKey) : Inspect σ UserTypeShape := do
  let d ← getDomain
  match d.findResultType? key with
  | some existing =>
    setDomain (d.modifyResultType key fun r => r.addOperation user)
    return .rows existing.key
  | none =>
    match ← ask (catalog.userType key.schema key.name) with
    | none => throw (.unknownUserType key.schema key.name)
    | some row =>
      match row.kind with
      | .composite =>
        let (result, warnings) := compositeType d row user
        warnAll warnings
        setDomain { d with resultTypes := d.resultTypes ++ [result] }
        return .rows result.key
      | .domain =>
        let baseType := row.baseType.getD ""
        match d.engine.valueType? baseType with
        | some valueType => return .value (some valueType)
        | none =>
          warn (.unmappedDomain key.text baseType)
          return .value none
      | .enum =>
        warn (.enumWithoutValueType key.text)
        return .value none

/-! ## Parameters -/

/-- A parameter with its value type, or the fault that it has none. -/
def typedParameter (op : TypeKey) (p : Parameter) (valueType : Option ValueType) :
    Outcome Parameter :=
  match valueType with
  | some t => .ok { p with valueType := some t }
  | none => .error (.unresolvedParameter op.text p.name)

/-- The parameter of an input. -/
def loadParameter (catalog : Catalog σ) (op : TypeKey) (row : ParameterRow) :
    Inspect σ Parameter := do
  let p := { Parameter.blank row.name row.ordinal row.nativeType with
    hasDefault := row.hasDefault
    isRequired := !row.hasDefault }
  let engine := (← getDomain).engine
  if row.isUserDefined then
    match ← resolveUserType catalog ⟨row.typeSchema.getD op.schema, row.nativeType⟩ op with
    | .rows key =>
      return { p with valueType := some (.of .resultType), resultType := some key }
    | .value valueType => lift (typedParameter op p valueType)
  else lift (typedParameter op p (engine.valueType? row.nativeType))

/-- The parameters of inputs, in order. -/
def loadParameters (catalog : Catalog σ) (op : TypeKey) :
    List ParameterRow → Inspect σ (List Parameter)
  | [] => return []
  | row :: rest => do
    let p ← loadParameter catalog op row
    return p :: (← loadParameters catalog op rest)

/-! ## Return shapes -/

/-- Copies what a type knows about its fields onto a result type. -/
def widen (result : TypeKey) (related : Option TypeKey) : Inspect σ Unit := do
  match related with
  | none => return ()
  | some source =>
    let (d, warnings) := (← getDomain).widenResult result source
    setDomain d
    warnAll warnings

/-- The key of the result type for an operation's rows: the name its overrides give, else the
conventional one. -/
def rowTypeKey (d : Domain) (op : Operation) : TypeKey :=
  ⟨op.schema, (op.attributes.bind Attributes.resultTypeName?).getD
    (d.naming.resultTypeName op.name)⟩

/-- The return shape of an operation with output columns: a value for one column, else a type of
exactly this shape, else a result type, found by name or made. -/
def rowReturn (op : Operation) (rows : List ResultColumnRow) : Inspect σ OperationReturn := do
  let d ← getDomain
  let multiple := !op.singleResult
  let (fields, warnings) := resultFields d.engine op.key.text rows
  warnAll warnings
  match fields with
  | [single] => return .primitive single.valueType multiple
  | _ =>
    -- PostgreSQL keeps the letter case of columns, so it distinguishes them; SQL Server does not.
    match d.findTypeByFields? fields op (d.engine == .postgres) with
    | some key => return .applicationType key multiple
    | none =>
      let key := rowTypeKey d op
      match d.findResultType? key with
      | some existing =>
        -- The shape of the first user stays; the fields found here are not compared with it.
        setDomain (d.modifyResultType key fun r => r.addOperation op.key)
        return .customType existing.key multiple
      | none =>
        let result : ResultType := { ResultType.blank key false with
          fields := fields
          relatedType := op.relatedType
          operations := [op.key] }
        setDomain { d with resultTypes := d.resultTypes ++ [result] }
        widen key op.relatedType
        return .customType key multiple

/-- The return shape of an operation without output columns, from its declared type: nothing, a
value, rows of a table, rows of a composite, or a domain's value. -/
def declaredReturn (catalog : Catalog σ) (op : Operation) (row : RoutineRow) :
    Inspect σ OperationReturn := do
  let d ← getDomain
  if d.engine.isVoid row.returnType then return .nothing
  else
    let returnType := row.returnType.getD ""
    -- A pseudo-type tells nothing about the shape, so there is nothing to look up.
    if isPseudoType returnType then
      warn (.noColumnInformation op.key.text returnType)
      return .primitive none row.returnsSet
    else match d.engine.valueType? returnType with
      | some valueType => return .primitive (some valueType) row.returnsSet
      | none =>
        let key := typeNameKey returnType op.schema
        match d.findType? key with
        | some t => return .applicationType t.key row.returnsSet
        | none =>
          match ← resolveUserType catalog key op.key with
          | .rows found =>
            widen found op.relatedType
            return .customType found row.returnsSet
          | .value valueType => return .primitive valueType row.returnsSet

/-- What an operation returns: what its output columns say, else its declared type. -/
def inferReturn (catalog : Catalog σ) (op : Operation) (row : RoutineRow) :
    Inspect σ OperationReturn := do
  let columns ← ask (catalog.resultColumns row)
  if columns.isEmpty then declaredReturn catalog op row else rowReturn op columns

/-! ## Parameters and fields -/

/-- The field that a parameter carries: the one of its name, else the one whose conventional
parameter has its name. -/
def carriedField? (d : Domain) (t : ApplicationType) (p : Parameter) : Option Field :=
  match t.fields.find? fun f => d.engine.namesEqual f.name p.name with
  | some f => some f
  | none => t.fields.find? fun f =>
    d.engine.namesEqual (d.naming.parameterName f.name) p.name

/-- A parameter after comparison with the fields of the related type. The one with the calling
user's id is matched to none and accepts null. -/
def matchedParameter (d : Domain) (t : ApplicationType) (p : Parameter) : Parameter :=
  if p.isResultType then p
  else if d.isSecurityUser p then p.makeOptional
  else match carriedField? d t p with
    | some f => p.applyField f
    | none => p

/-- The operation with its parameters compared with the fields of its related type. -/
def matchParameters (d : Domain) (op : Operation) : Operation :=
  match op.relatedType.bind d.findType? with
  | some t => { op with parameters := op.parameters.map (matchedParameter d t) }
  | none => op

/-! ## The stage -/

/-- The operation of a routine. -/
def loadOperation (catalog : Catalog σ) (row : RoutineRow) : Inspect σ Operation := do
  let (overrides, warnings) := Attributes.parse row.description row.fullName
  warnAll warnings
  let key : TypeKey := ⟨row.schema, row.name⟩
  let (related, warnings) := relatedType (← getDomain) key overrides
  warnAll warnings
  let parameters ← loadParameters catalog key (← ask (catalog.parameters row))
  let op : Operation :=
    ⟨row.name, row.schema, row.specificName, row.kind, parameters, .nothing, overrides, related⟩
  let returns ← inferReturn catalog op row
  -- The domain is read again: resolving types may have added result types to it.
  return matchParameters (← getDomain) { op with returns := returns }

/-- The operations of routines, one after the other. -/
def loadEach (catalog : Catalog σ) : List RoutineRow → Inspect σ Unit
  | [] => return ()
  | row :: rest => do
    let op ← loadOperation catalog row
    change fun d => { d with operations := d.operations ++ [op] }
    loadEach catalog rest

/-- The number of operations whose return shape lacks its type. -/
def incompleteCount (d : Domain) : Nat :=
  (d.operations.filter fun op => op.returns.isIncomplete).length

/-- Loads every routine outside the excluded schemas into the domain. -/
def loadOperations (catalog : Catalog σ) (settings : Settings) : Inspect σ Unit := do
  let rows ← ask (catalog.routines settings.excludedSchemas)
  loadEach catalog rows
  let count := incompleteCount (← getDomain)
  if 0 < count then warn (.incompleteReturns count)

end SchemaModel.Inspection
