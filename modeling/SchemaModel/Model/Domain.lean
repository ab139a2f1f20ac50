import SchemaModel.FirstMatch
import SchemaModel.Model.ApplicationType
import SchemaModel.Model.Operation

/-!
# `SchemaModel.Model.Domain` — everything read from one database

## Contents
- `Domain`: the types, operations and result types, with the engine and naming style they follow.
- **Look-up.** `findType?`, `findResultType?`, `findOperations` compare keys like the engine does;
  `findField?` takes the field's name literally.
- `findTypeByFields?`: the type whose fields have exactly the shape of given ones.
- `widenResult`: copies what a type knows about its fields onto a result type.
- **Consistency.** `validateReferences`, `sanityCheck`.
- `typesForGeneration`: the types that a filter selects.
- **Security.** `userType?`, `userIdentityField`, `isSecurityUser`, `isSelectById`.
-/

namespace SchemaModel

/-- Everything read from one database. -/
structure Domain where
  defaultNamespace : String
  engine : Engine
  naming : NamingStyle
  types : List ApplicationType
  operations : List Operation
  resultTypes : List ResultType
  deriving Inhabited

namespace Domain

/-- A domain without content. -/
def blank (engine : Engine) (naming : NamingStyle) (defaultNamespace : String) : Domain :=
  ⟨defaultNamespace, engine, naming, [], [], []⟩

/-! ## Look-up -/

/-- The first type under a key. -/
def findType? (d : Domain) (key : TypeKey) : Option ApplicationType :=
  d.types.find? fun t => d.engine.keysEqual t.key key

/-- The first result type under a key. -/
def findResultType? (d : Domain) (key : TypeKey) : Option ResultType :=
  d.resultTypes.find? fun r => d.engine.keysEqual r.key key

/-- The overloads under a key. -/
def findOperations (d : Domain) (key : TypeKey) : List Operation :=
  d.operations.filter fun op => d.engine.keysEqual op.key key

/-- The field that a reference points at. -/
def findField? (d : Domain) (reference : FieldReference) : Option Field :=
  (d.findType? reference.typeKey).bind fun t => t.field? reference.field

/-- The domain with the first result type under a key changed. -/
def modifyResultType (d : Domain) (key : TypeKey) (change : ResultType → ResultType) : Domain :=
  { d with
    resultTypes := modifyFirst (fun r => d.engine.keysEqual r.key key) change d.resultTypes }

/-- The domain with the first type under a key changed. -/
def modifyType (d : Domain) (key : TypeKey) (change : ApplicationType → ApplicationType) :
    Domain :=
  { d with types := modifyFirst (fun t => d.engine.keysEqual t.key key) change d.types }

/-! ## Types by their fields -/

/-- Two field names agree, exactly or up to the case of ASCII letters. -/
def sameFieldName (caseSensitive : Bool) (a b : String) : Bool :=
  if caseSensitive then a == b else Text.eqIgnoreAsciiCase a b

/-- Two fields agree in name and native type. -/
def sameField (caseSensitive : Bool) (a b : Field) : Bool :=
  sameFieldName caseSensitive a.name b.name &&
    NativeType.normalize a.nativeType == NativeType.normalize b.nativeType

/-- The projected fields of a type have exactly the shape of given ones: the same number, and for
each given one exactly one that agrees with it. -/
def fieldsMatch (t : ApplicationType) (wanted : List Field) (style : NamingStyle)
    (caseSensitive : Bool) : Bool :=
  let available := t.fields.filter fun f => !f.isExcludedFromResults style
  available.length == wanted.length &&
    wanted.all fun w => (available.filter fun f => sameField caseSensitive f w).length == 1

/-- What stands before this in an operation's name is what the operation is about. -/
def selectMarker : String := "_select_"

/-- The keys of the types that an operation may return: its related type's name in its own schema,
and the part of its own name before the marker. -/
def returnCandidates (op : Operation) : List TypeKey :=
  (match op.relatedType with
    | some related => [⟨op.schema, related.name⟩]
    | none => []) ++
  (match Text.until? selectMarker.toList op.name.toList with
    | some front => [⟨op.schema, String.ofList front⟩]
    | none => [])

/-- The type whose projected fields have exactly the shape of the given fields. -/
def findTypeByFields? (d : Domain) (fields : List Field) (op : Operation)
    (caseSensitive : Bool) : Option TypeKey :=
  let wanted := fields.filter fun f => !f.isExcludedFromResults d.naming
  (returnCandidates op).findSome? fun candidate =>
    (d.findType? candidate).bind fun t =>
      if fieldsMatch t wanted d.naming caseSensitive then some t.key else none

/-! ## Widening result types -/

/-- A field of a result type with what a field of a type says about it. A value type becomes
nullable where the source's is, and never the other way round; the field's own overrides stand. -/
def widenField (f source : Field) : Field :=
  { f with
    size := source.size
    isKey := source.isKey
    isRequired := source.isRequired
    isComputed := source.isComputed
    references := source.references
    valueType :=
      match f.valueType, source.valueType with
      -- Taken over only where the two differ in nullability alone, and the source is the wider one.
      | some own, some theirs => if own == theirs.nonNullable then some theirs else some own
      | own, _ => own
    attributes := Attributes.merged source.attributes f.attributes }

/-- The field of a type that a result field is named after. -/
def sourceField? (engine : Engine) (source : ApplicationType) (f : Field) : Option Field :=
  source.fields.find? fun s => engine.namesEqual s.name f.name

/-- A result field after comparison with the type it is about. -/
def widenedField (engine : Engine) (source : ApplicationType) (f : Field) : Field :=
  match sourceField? engine source f with
  | some s => widenField f s
  | none => f

/-- Copies what a type knows about its fields onto a result type, with a warning for every field
that still has no value type. -/
def widenResult (d : Domain) (result source : TypeKey) : Domain × List Warning :=
  match d.findType? source with
  | none => (d, [.relatedTypeMissing source.text result.text])
  | some t =>
    match d.findResultType? result with
    | none => (d, [.resultTypeMissing result.text])
    | some r =>
      let fields := r.fields.map (widenedField d.engine t)
      -- Warnings are about the fields as they are afterwards.
      (d.modifyResultType result fun r =>
          { r with fields := r.fields.map (widenedField d.engine t) },
        (fields.filter fun f => f.valueType.isNone).map fun f =>
          .resultFieldUntyped result.text f.name f.nativeType)

/-! ## Consistency -/

/-- What is wrong with the references of a type. -/
def typeProblems (d : Domain) (t : ApplicationType) : List String :=
  t.fields.filterMap fun f =>
    match f.references with
    | some reference =>
      if (d.findField? reference).isNone then
        some ("Field " ++ t.key.text ++ "." ++ f.name ++ " references missing " ++
          reference.typeKey.text ++ "." ++ reference.field)
      else none
    | none => none

/-- What is wrong with the related type of a result type. -/
def resultProblems (d : Domain) (r : ResultType) : List String :=
  match r.relatedType with
  | some related =>
    if (d.findType? related).isNone then
      ["Result type " ++ r.key.text ++ " relates to missing type " ++ related.text]
    else []
  | none => []

/-- The type that a return shape names is there. -/
def returnPresent (d : Domain) (kind : ReturnKind) (key : TypeKey) : Bool :=
  match kind with
  | .applicationType => (d.findType? key).isSome
  | .customType => (d.findResultType? key).isSome
  | _ => true

/-- What is wrong with the keys that an operation names. -/
def operationProblems (d : Domain) (op : Operation) : List String :=
  (match op.relatedType with
    | some related =>
      if (d.findType? related).isNone then
        ["Operation " ++ op.key.text ++ " relates to missing type " ++ related.text]
      else []
    | none => []) ++
  (match op.returns.typeKey with
    | some key =>
      if d.returnPresent op.returns.kind key then []
      else ["Operation " ++ op.key.text ++ " returns missing type " ++ key.text]
    | none => []) ++
  op.parameters.filterMap fun p =>
    match p.resultType with
    | some key =>
      if (d.findResultType? key).isNone then
        some ("Parameter " ++ p.name ++ " of " ++ op.key.text ++
          " carries missing result type " ++ key.text)
      else none
    | none => none

/-- One message for every key that names nothing in the domain. -/
def validateReferences (d : Domain) : List String :=
  d.types.flatMap d.typeProblems ++ d.resultTypes.flatMap d.resultProblems ++
    d.operations.flatMap d.operationProblems

/-- A message under a condition. -/
def messageIf (condition : Bool) (message : String) : List String :=
  if condition then [message] else []

/-- One message for everything that generation can live with. -/
def sanityCheck (d : Domain) : List String :=
  (d.types.flatMap fun t =>
    messageIf (t.schema == "") ("Type " ++ t.name ++ " has no namespace") ++
    messageIf t.fields.isEmpty ("Type " ++ t.key.text ++ " has no fields") ++
    messageIf (t.fields.any fun f => (Text.trimmed f.name) == "")
      ("Type " ++ t.key.text ++ " has a field with an empty name") ++
    messageIf (decide (1 < t.displayFields.length))
      ("Type " ++ t.key.text ++ " has more than one display field")) ++
  (d.resultTypes.flatMap fun r =>
    messageIf r.fields.isEmpty ("Result type " ++ r.key.text ++ " has no fields")) ++
  (d.operations.flatMap fun op =>
    messageIf (op.schema == "") ("Operation " ++ op.name ++ " has no namespace") ++
    messageIf op.returns.isIncomplete
      ("Operation " ++ op.key.text ++ " has no return type information"))

/-! ## Filtering -/

/-- The filter selects the type: by its name as the engine compares it, or by its exact key. -/
def selects (d : Domain) (filter : String) (t : ApplicationType) : Bool :=
  d.engine.namesEqual t.name filter || t.key.text == filter

/-- The types that a filter selects; without a filter all of them. -/
def typesForGeneration (d : Domain) (filter : Option String) : Outcome (List ApplicationType) :=
  match filter with
  | none => .ok d.types
  | some name =>
    let selected := d.types.filter (d.selects name)
    if selected.isEmpty then .error (.typeFilter name) else .ok selected

/-! ## Security -/

/-- The type that holds the application's users. -/
def userType? (d : Domain) : Option ApplicationType :=
  d.types.find? ApplicationType.isSecurityPrincipal

/-- The key field of the type that holds the users. -/
def userIdentityField (d : Domain) : Outcome (Option Field) :=
  match d.userType? with
  | some t => t.keyField.map some
  | none => .ok none

/-- The key field of the users, when there is exactly one. -/
def userIdentity? (d : Domain) : Option Field :=
  match d.userIdentityField with
  | .ok field => field
  | .error _ => none

/-- The parameter carries the id of the calling user: it is named so, and its kind of value is that
of the users' key. Where no users are known, the name decides. -/
def isSecurityUser (d : Domain) (p : Parameter) : Bool :=
  p.isCurrentUser d.naming &&
    match d.userIdentity?, p.valueType with
    -- Nullability does not count: the parameter accepts null and a key does not.
    | some identity, some own => identity.kind? == some own.kind
    | some _, none => false
    | none, _ => true

/-- The fields that the parameters match, each a key field and none twice; `none` when a parameter
matches none. -/
def matchedKeys (d : Domain) (keyNames matched : List String) :
    List Parameter → Option (List String)
  | [] => some matched
  | p :: rest =>
    if d.isSecurityUser p then d.matchedKeys keyNames matched rest
    else match p.relatedField with
      | some name =>
        if keyNames.contains name && !matched.contains name then
          d.matchedKeys keyNames (matched ++ [name]) rest
        else none
      | none => none

/-- The operation reads one row of its related type by its key. -/
def isSelectById (d : Domain) (op : Operation) : Bool :=
  match op.relatedType with
  | none => false
  | some related =>
    op.returns.kind == .applicationType && op.returns.typeKey == some related &&
      !op.changesData d.naming &&
      match d.findType? related with
      | none => false
      | some t =>
        let keyNames := t.keyFields.map Field.name
        !keyNames.isEmpty &&
          match d.matchedKeys keyNames [] op.parameters with
          -- None is matched twice, so equal lengths mean that every key field is matched.
          | some matched => matched.length == keyNames.length
          | none => false

end Domain

end SchemaModel
