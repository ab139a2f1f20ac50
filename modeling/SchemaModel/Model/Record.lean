import SchemaModel.Model.Domain
import SchemaModel.Document.Decode

/-!
# `SchemaModel.Model.Record` — the domain as records

How a domain and its parts are written as JSON objects and read back.

## Contents
- For every part `toJson`, with all fields in order and null for what is missing, and `decode`.
-/

namespace SchemaModel

open Decode

/-! ## Leaves -/

namespace ValueType

/-- The value type as a record. -/
def toJson (t : ValueType) : Json :=
  .object
    [("kind", .string t.kind.word), ("nullable", .bool t.nullable), ("array", .bool t.array)]

/-- The value type of a record. -/
def decode : Decoder ValueType :=
  record ["kind", "nullable", "array"] fun r => do
    return {
      kind := ← r.required "kind" (word ValueKind.table)
      nullable := ← r.defaulted "nullable" truth false
      array := ← r.defaulted "array" truth false }

end ValueType

namespace Attributes

/-- The bag as a JSON object. -/
def toJson (a : Attributes) : Json := .object a.fields

/-- The bag of a JSON object. -/
def decode : Decoder Attributes := fun scope d =>
  match Json.ofDocument? scope.depth d with
  | some (.object fields) => pure (.ofFields fields)
  | _ => failure

end Attributes

namespace TypeKey

/-- The key as a record. -/
def toJson (key : TypeKey) : Json :=
  .object [("namespace", .string key.schema), ("name", .string key.name)]

/-- The key of a record. -/
def decode : Decoder TypeKey :=
  record ["namespace", "name"] fun r => do
    return {
      schema := ← r.required "namespace" Decode.text
      name := ← r.required "name" Decode.text }

end TypeKey

namespace FieldReference

/-- The reference as a record. -/
def toJson (reference : FieldReference) : Json :=
  .object [("type_key", reference.typeKey.toJson), ("field", .string reference.field)]

/-- The reference of a record. -/
def decode : Decoder FieldReference :=
  record ["type_key", "field"] fun r => do
    return {
      typeKey := ← r.required "type_key" TypeKey.decode
      field := ← r.required "field" text }

end FieldReference

namespace Field

/-- The field as a record. -/
def toJson (f : Field) : Json :=
  .object
    [("name", .string f.name), ("order", .int f.order), ("native_type", .string f.nativeType),
     ("clr_type", .optional ValueType.toJson f.valueType), ("is_required", .bool f.isRequired),
     ("size", .optional .int f.size), ("precision", .optional .int f.precision),
     ("scale", .optional .int f.scale), ("is_key", .bool f.isKey),
     ("is_generated", .bool f.isGenerated), ("is_computed", .bool f.isComputed),
     ("default_value", .optional .string f.defaultValue),
     ("references", .optional FieldReference.toJson f.references),
     ("attributes", .optional Attributes.toJson f.attributes)]

/-- The field of a record. -/
def decode : Decoder Field :=
  record ["name", "order", "native_type", "clr_type", "is_required", "size", "precision", "scale",
      "is_key", "is_generated", "is_computed", "default_value", "references", "attributes"]
    fun r => do
      return {
        name := ← r.required "name" text
        order := ← r.required "order" int32
        nativeType := ← r.required "native_type" text
        valueType := ← r.optional "clr_type" ValueType.decode
        isRequired := ← r.required "is_required" truth
        size := ← r.optional "size" int32
        precision := ← r.optional "precision" int32
        scale := ← r.optional "scale" int32
        isKey := ← r.defaulted "is_key" truth false
        isGenerated := ← r.defaulted "is_generated" truth false
        isComputed := ← r.defaulted "is_computed" truth false
        defaultValue := ← r.optional "default_value" text
        references := ← r.optional "references" FieldReference.decode
        attributes := ← r.optional "attributes" Attributes.decode }

end Field

namespace Constraint

/-- The constraint as a record. -/
def toJson (c : Constraint) : Json :=
  .object
    [("name", .string c.name), ("kind", .string c.kind.word), ("fields", .list .string c.fields)]

/-- The constraint of a record. -/
def decode : Decoder Constraint :=
  record ["name", "kind", "fields"] fun r => do
    return {
      name := ← r.required "name" text
      kind := ← r.required "kind" (word KeyKind.table)
      fields := ← r.required "fields" (list text) }

end Constraint

/-! ## Types, shapes and operations -/

namespace ApplicationType

/-- The type as a record. -/
def toJson (t : ApplicationType) : Json :=
  .object
    [("name", .string t.name), ("namespace", .string t.schema),
     ("fields", .list Field.toJson t.fields),
     ("constraints", .list Constraint.toJson t.constraints),
     ("attributes", .optional Attributes.toJson t.attributes)]

/-- The type of a record. -/
def decode : Decoder ApplicationType :=
  record ["name", "namespace", "fields", "constraints", "attributes"] fun r => do
    return {
      name := ← r.required "name" text
      schema := ← r.required "namespace" text
      fields := ← r.required "fields" (list Field.decode)
      constraints := ← r.defaulted "constraints" (list Constraint.decode) []
      attributes := ← r.optional "attributes" Attributes.decode }

end ApplicationType

namespace Parameter

/-- The parameter as a record. -/
def toJson (p : Parameter) : Json :=
  .object
    [("name", .string p.name), ("order", .int p.order), ("native_type", .string p.nativeType),
     ("clr_type", .optional ValueType.toJson p.valueType), ("is_required", .bool p.isRequired),
     ("has_default", .bool p.hasDefault), ("size", .optional .int p.size),
     ("related_type_field", .optional .string p.relatedField),
     ("result_type", .optional TypeKey.toJson p.resultType)]

/-- The parameter of a record. -/
def decode : Decoder Parameter :=
  record ["name", "order", "native_type", "clr_type", "is_required", "has_default", "size",
      "related_type_field", "result_type"] fun r => do
    return {
      name := ← r.required "name" text
      order := ← r.required "order" int32
      nativeType := ← r.required "native_type" text
      valueType := ← r.optional "clr_type" ValueType.decode
      isRequired := ← r.required "is_required" truth
      hasDefault := ← r.defaulted "has_default" truth false
      size := ← r.optional "size" int32
      relatedField := ← r.optional "related_type_field" text
      resultType := ← r.optional "result_type" TypeKey.decode }

end Parameter

namespace ResultType

/-- The result type as a record. -/
def toJson (t : ResultType) : Json :=
  .object
    [("name", .string t.name), ("namespace", .string t.schema),
     ("related_type", .optional TypeKey.toJson t.relatedType),
     ("is_custom_type", .bool t.isCustomType), ("fields", .list Field.toJson t.fields),
     ("operations", .list TypeKey.toJson t.operations),
     ("attributes", .optional Attributes.toJson t.attributes)]

/-- The result type of a record. -/
def decode : Decoder ResultType :=
  record ["name", "namespace", "related_type", "is_custom_type", "fields", "operations",
      "attributes"] fun r => do
    return {
      name := ← r.required "name" text
      schema := ← r.required "namespace" text
      relatedType := ← r.optional "related_type" TypeKey.decode
      isCustomType := ← r.required "is_custom_type" truth
      fields := ← r.required "fields" (list Field.decode)
      operations := ← r.defaulted "operations" (list TypeKey.decode) []
      attributes := ← r.optional "attributes" Attributes.decode }

end ResultType

namespace OperationReturn

/-- The return shape as a record. -/
def toJson (t : OperationReturn) : Json :=
  .object
    [("kind", .string t.kind.word), ("clr_type", .optional ValueType.toJson t.valueType),
     ("type_key", .optional TypeKey.toJson t.typeKey), ("multiple", .bool t.multiple)]

/-- The return shape of a record. -/
def decode : Decoder OperationReturn :=
  record ["kind", "clr_type", "type_key", "multiple"] fun r => do
    return {
      kind := ← r.required "kind" (word ReturnKind.table)
      valueType := ← r.optional "clr_type" ValueType.decode
      typeKey := ← r.optional "type_key" TypeKey.decode
      multiple := ← r.defaulted "multiple" truth false }

end OperationReturn

namespace Operation

/-- The operation as a record. -/
def toJson (op : Operation) : Json :=
  .object
    [("name", .string op.name), ("namespace", .string op.schema),
     ("specific_name", .string op.specificName), ("kind", .string op.kind.word),
     ("parameters", .list Parameter.toJson op.parameters), ("returns", op.returns.toJson),
     ("attributes", .optional Attributes.toJson op.attributes),
     ("related_type", .optional TypeKey.toJson op.relatedType)]

/-- The operation of a record. -/
def decode : Decoder Operation :=
  record ["name", "namespace", "specific_name", "kind", "parameters", "returns", "attributes",
      "related_type"] fun r => do
    return {
      name := ← r.required "name" text
      schema := ← r.required "namespace" text
      specificName := ← r.defaulted "specific_name" text ""
      kind := ← r.required "kind" (word RoutineKind.table)
      parameters := ← r.required "parameters" (list Parameter.decode)
      returns := ← r.defaulted "returns" OperationReturn.decode .nothing
      attributes := ← r.optional "attributes" Attributes.decode
      relatedType := ← r.optional "related_type" TypeKey.decode }

end Operation

/-! ## Domains -/

namespace Domain

/-- The domain as a record. -/
def toJson (d : Domain) : Json :=
  .object
    [("default_namespace", .string d.defaultNamespace), ("provider", .string d.engine.word),
     ("naming", .string d.naming.word), ("types", .list ApplicationType.toJson d.types),
     ("operations", .list Operation.toJson d.operations),
     ("result_types", .list ResultType.toJson d.resultTypes)]

/-- The domain of a record. -/
def decode : Decoder Domain :=
  record ["default_namespace", "provider", "naming", "types", "operations", "result_types"]
    fun r => do
      return {
        defaultNamespace := ← r.required "default_namespace" text
        engine := ← r.required "provider" (word Engine.table)
        naming := ← r.required "naming" (word NamingStyle.table)
        types := ← r.required "types" (list ApplicationType.decode)
        operations := ← r.required "operations" (list Operation.decode)
        resultTypes := ← r.required "result_types" (list ResultType.decode) }

end Domain

end SchemaModel
