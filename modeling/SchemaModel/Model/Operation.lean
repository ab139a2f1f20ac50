import SchemaModel.Model.Field

/-!
# `SchemaModel.Model.Operation` — operations and the shapes they return

## Contents
- `Parameter`: an input, possibly matched to a field of the operation's related type.
- `ResultType`: a shape that no table backs, and the operations that use it.
- `OperationReturn`: what an operation gives back.
- `Operation`: a stored routine.
-/

namespace SchemaModel

/-! ## Parameters -/

/-- An input of an operation. -/
structure Parameter where
  name : String
  order : Int
  nativeType : String
  valueType : Option ValueType
  isRequired : Bool
  hasDefault : Bool
  size : Option Int
  relatedField : Option String
  resultType : Option TypeKey
  deriving DecidableEq, Repr, Inhabited

namespace Parameter

/-- A required parameter of unknown type. -/
def blank (name : String) (order : Int) (nativeType : String) : Parameter where
  name := name
  order := order
  nativeType := nativeType
  valueType := none
  isRequired := true
  hasDefault := false
  size := none
  relatedField := none
  resultType := none

/-- The parameter carries rows. -/
def isResultType (p : Parameter) : Bool := p.valueType.any ValueType.isResultType

/-- The parameter is named like the id of the calling user. -/
def isCurrentUser (p : Parameter) (style : NamingStyle) : Bool := style.isSecurityUser p.name

/-- The parameter with type, size and nullability of the field it was matched to. -/
def applyField (p : Parameter) (f : Field) : Parameter :=
  { p with
    relatedField := some f.name
    valueType := if f.valueType.isSome then f.valueType else p.valueType
    size := f.size
    isRequired := f.isRequired && !p.hasDefault }

/-- The parameter in a form that accepts null. -/
def makeOptional (p : Parameter) : Parameter :=
  { p with isRequired := false, valueType := p.valueType.map ValueType.nullableForm }

end Parameter

/-! ## Result types -/

/-- A shape that no table backs: a composite type of the database, or one made from the columns that
a routine returns. -/
structure ResultType where
  name : String
  schema : String
  relatedType : Option TypeKey
  isCustomType : Bool
  fields : List Field
  operations : List TypeKey
  attributes : Option Attributes
  deriving Inhabited

namespace ResultType

/-- A shape without fields. -/
def blank (key : TypeKey) (isCustomType : Bool) : ResultType where
  name := key.name
  schema := key.schema
  relatedType := none
  isCustomType := isCustomType
  fields := []
  operations := []
  attributes := none

/-- The identity of the shape. -/
def key (r : ResultType) : TypeKey := ⟨r.schema, r.name⟩

/-- The field of exactly this name. -/
def field? (r : ResultType) (name : String) : Option Field :=
  r.fields.find? fun f => f.name == name

/-- The shape was emitted by an earlier run. -/
def isGenerated (r : ResultType) : Bool := r.attributes.any Attributes.generated

/-- Records an operation as a user of the shape, once. -/
def addOperation (r : ResultType) (operation : TypeKey) : ResultType :=
  if r.operations.contains operation then r
  else { r with operations := r.operations ++ [operation] }

end ResultType

/-! ## Operations -/

/-- The kinds of return shapes. -/
inductive ReturnKind where
  | none
  | primitive
  | applicationType
  | customType
  deriving DecidableEq, Repr, Inhabited

namespace ReturnKind

/-- The kinds by their words in records. -/
def table : List (String × ReturnKind) :=
  [("none", .none), ("primitive", .primitive), ("application_type", .applicationType),
   ("custom_type", .customType)]

/-- The word for the kind in records. -/
def word : ReturnKind → String
  | .none => "none"
  | .primitive => "primitive"
  | .applicationType => "application_type"
  | .customType => "custom_type"

end ReturnKind

/-- What an operation returns: nothing, values, rows of a table, or rows of a result type. -/
structure OperationReturn where
  kind : ReturnKind
  valueType : Option ValueType
  typeKey : Option TypeKey
  multiple : Bool
  deriving DecidableEq, Repr, Inhabited

namespace OperationReturn

/-- Nothing. -/
def nothing : OperationReturn := ⟨.none, none, none, false⟩

/-- A value, or several. -/
def primitive (valueType : Option ValueType) (multiple : Bool) : OperationReturn :=
  ⟨.primitive, valueType, none, multiple⟩

/-- Rows of an application type. -/
def applicationType (key : TypeKey) (multiple : Bool) : OperationReturn :=
  ⟨.applicationType, none, some key, multiple⟩

/-- Rows of a result type. -/
def customType (key : TypeKey) (multiple : Bool) : OperationReturn :=
  ⟨.customType, none, some key, multiple⟩

/-- The shape lacks the type that it needs. -/
def isIncomplete (r : OperationReturn) : Bool :=
  match r.kind with
  | .none => false
  | .primitive => r.valueType.isNone
  | .applicationType | .customType => r.typeKey.isNone

end OperationReturn

/-- A stored routine. -/
structure Operation where
  name : String
  schema : String
  specificName : String
  kind : RoutineKind
  parameters : List Parameter
  returns : OperationReturn
  attributes : Option Attributes
  relatedType : Option TypeKey
  deriving Inhabited

namespace Operation

/-- The identity of the operation, shared by its overloads. -/
def key (op : Operation) : TypeKey := ⟨op.schema, op.name⟩

/-- The name given by the overrides, else the routine's own. -/
def customName (op : Operation) : String :=
  (op.attributes.bind Attributes.customName?).getD op.name

/-- The native types of the parameters, in order. -/
def parameterTypes (op : Operation) : List String := op.parameters.map Parameter.nativeType

/-- Words of an operation that writes. -/
def changeWords : List String :=
  ["insert", "update", "delete", "upsert", "save", "create", "add", "remove", "set"]

/-- Words of an operation that inserts. -/
def insertWords : List String := ["insert", "create", "add"]

/-- The operation changes data: as its overrides say, else by a word of its name. -/
def changesData (op : Operation) (style : NamingStyle) : Bool :=
  (op.attributes.bind Attributes.changesData?).getD
    ((style.lowerWords op.name).any changeWords.contains)

/-- The operation inserts: as its overrides say, else by a word of its name. -/
def createsNew (op : Operation) (style : NamingStyle) : Bool :=
  (op.attributes.bind Attributes.createsNew?).getD
    ((style.lowerWords op.name).any insertWords.contains)

/-- The operation was emitted by an earlier run. -/
def isGenerated (op : Operation) : Bool := op.attributes.any Attributes.generated

/-- The operation yields one row or value even when it is shaped like a set. -/
def singleResult (op : Operation) : Bool := op.attributes.any Attributes.singleResult

end Operation

end SchemaModel
