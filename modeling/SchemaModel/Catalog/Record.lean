import SchemaModel.Catalog.Snapshot
import SchemaModel.Document.Decode
import SchemaModel.Json.Reader
import SchemaModel.Yaml.Reader

/-!
# `SchemaModel.Catalog.Record` — catalog rows as records

How the rows of a catalog and whole snapshots are written as JSON objects, and read from JSON or
YAML.

## Contents
- For every row type `toJson`, with all fields in order, and `decode`. Optional fields may be
  absent; the fields of a snapshot that describe nothing special may be left out.
-/

namespace SchemaModel

open Decode

/-! ## Tables -/

namespace TableRow

/-- The row as a record. -/
def toJson (row : TableRow) : Json :=
  .object
    [("schema", .string row.schema), ("name", .string row.name),
     ("description", .optional .string row.description)]

end TableRow

namespace ColumnRow

/-- The row as a record. -/
def toJson (row : ColumnRow) : Json :=
  .object
    [("name", .string row.name), ("ordinal", .int row.ordinal),
     ("native_type", .string row.nativeType), ("size", .optional .int row.size),
     ("precision", .optional .int row.precision), ("scale", .optional .int row.scale),
     ("description", .optional .string row.description)]

end ColumnRow

namespace ColumnFlagsRow

/-- The row as a record. -/
def toJson (row : ColumnFlagsRow) : Json :=
  .object
    [("name", .string row.name), ("is_nullable", .bool row.isNullable),
     ("is_identity", .bool row.isIdentity), ("is_computed", .bool row.isComputed),
     ("default_value", .optional .string row.defaultValue)]

end ColumnFlagsRow

namespace KeyConstraintRow

/-- The row as a record. -/
def toJson (row : KeyConstraintRow) : Json :=
  .object
    [("name", .string row.name), ("kind", .string row.kind.word),
     ("columns", .list .string row.columns)]

/-- The row of a record. -/
def decode : Decoder KeyConstraintRow :=
  record ["name", "kind", "columns"] fun r => do
    return {
      name := ← r.required "name" text
      kind := ← r.required "kind" (word KeyKind.table)
      columns := ← r.required "columns" (list text) }

end KeyConstraintRow

namespace ForeignKeyRow

/-- The row as a record. -/
def toJson (row : ForeignKeyRow) : Json :=
  .object
    [("name", .string row.name), ("column", .string row.column),
     ("ref_schema", .string row.refSchema), ("ref_table", .string row.refTable),
     ("ref_column", .string row.refColumn)]

/-- The row of a record. -/
def decode : Decoder ForeignKeyRow :=
  record ["name", "column", "ref_schema", "ref_table", "ref_column"] fun r => do
    return {
      name := ← r.required "name" text
      column := ← r.required "column" text
      refSchema := ← r.required "ref_schema" text
      refTable := ← r.required "ref_table" text
      refColumn := ← r.required "ref_column" text }

end ForeignKeyRow

/-! ## Routines -/

namespace RoutineRow

/-- The row as a record. -/
def toJson (row : RoutineRow) : Json :=
  .object
    [("schema", .string row.schema), ("name", .string row.name),
     ("specific_name", .string row.specificName), ("kind", .string row.kind.word),
     ("return_type", .optional .string row.returnType), ("returns_set", .bool row.returnsSet),
     ("result_signature", .optional .string row.resultSignature),
     ("description", .optional .string row.description)]

/-- The row of a record. -/
def decode : Decoder RoutineRow :=
  record ["schema", "name", "specific_name", "kind", "return_type", "returns_set",
      "result_signature", "description"] fun r => do
    return {
      schema := ← r.required "schema" text
      name := ← r.required "name" text
      specificName := ← r.defaulted "specific_name" text ""
      kind := ← r.required "kind" (word RoutineKind.table)
      returnType := ← r.optional "return_type" text
      returnsSet := ← r.defaulted "returns_set" truth false
      resultSignature := ← r.optional "result_signature" text
      description := ← r.optional "description" text }

end RoutineRow

namespace ParameterRow

/-- The row as a record. -/
def toJson (row : ParameterRow) : Json :=
  .object
    [("name", .string row.name), ("ordinal", .int row.ordinal),
     ("native_type", .string row.nativeType), ("type_schema", .optional .string row.typeSchema),
     ("is_user_defined", .bool row.isUserDefined), ("has_default", .bool row.hasDefault),
     ("is_output", .bool row.isOutput)]

end ParameterRow

namespace ResultColumnRow

/-- The row as a record. -/
def toJson (row : ResultColumnRow) : Json :=
  .object
    [("name", .string row.name), ("ordinal", .int row.ordinal),
     ("native_type", .string row.nativeType), ("is_nullable", .bool row.isNullable),
     ("size", .optional .int row.size)]

/-- The row of a record. -/
def decode : Decoder ResultColumnRow :=
  record ["name", "ordinal", "native_type", "is_nullable", "size"] fun r => do
    return {
      name := ← r.required "name" text
      ordinal := ← r.required "ordinal" int32
      nativeType := ← r.required "native_type" text
      isNullable := ← r.defaulted "is_nullable" truth true
      size := ← r.optional "size" int32 }

end ResultColumnRow

namespace UserTypeRow

/-- The row as a record. -/
def toJson (row : UserTypeRow) : Json :=
  .object
    [("schema", .string row.schema), ("name", .string row.name), ("kind", .string row.kind.word),
     ("base_type", .optional .string row.baseType),
     ("description", .optional .string row.description),
     ("columns", .list ResultColumnRow.toJson row.columns)]

/-- The row of a record. -/
def decode : Decoder UserTypeRow :=
  record ["schema", "name", "kind", "base_type", "description", "columns"] fun r => do
    return {
      schema := ← r.required "schema" text
      name := ← r.required "name" text
      kind := ← r.defaulted "kind" (word UserTypeKind.table) .composite
      baseType := ← r.optional "base_type" text
      description := ← r.optional "description" text
      columns := ← r.defaulted "columns" (list ResultColumnRow.decode) [] }

end UserTypeRow

/-! ## Snapshots -/

namespace StoredColumn

/-- The column as a record. -/
def toJson (c : StoredColumn) : Json :=
  .object
    [("name", .string c.name), ("native_type", .string c.nativeType),
     ("size", .optional .int c.size), ("precision", .optional .int c.precision),
     ("scale", .optional .int c.scale), ("is_nullable", .bool c.isNullable),
     ("is_identity", .bool c.isIdentity), ("is_computed", .bool c.isComputed),
     ("default_value", .optional .string c.defaultValue),
     ("description", .optional .string c.description)]

/-- The column of a record. -/
def decode : Decoder StoredColumn :=
  record ["name", "native_type", "size", "precision", "scale", "is_nullable", "is_identity",
      "is_computed", "default_value", "description"] fun r => do
    return {
      name := ← r.required "name" text
      nativeType := ← r.required "native_type" text
      size := ← r.optional "size" int32
      precision := ← r.optional "precision" int32
      scale := ← r.optional "scale" int32
      isNullable := ← r.defaulted "is_nullable" truth true
      isIdentity := ← r.defaulted "is_identity" truth false
      isComputed := ← r.defaulted "is_computed" truth false
      defaultValue := ← r.optional "default_value" text
      description := ← r.optional "description" text }

end StoredColumn

namespace StoredTable

/-- The table as a record. -/
def toJson (t : StoredTable) : Json :=
  .object
    [("schema", .string t.schema), ("name", .string t.name),
     ("description", .optional .string t.description),
     ("columns", .list StoredColumn.toJson t.columns),
     ("constraints", .list KeyConstraintRow.toJson t.constraints),
     ("foreign_keys", .list ForeignKeyRow.toJson t.foreignKeys)]

/-- The table of a record. -/
def decode : Decoder StoredTable :=
  record ["schema", "name", "description", "columns", "constraints", "foreign_keys"] fun r => do
    return {
      schema := ← r.required "schema" text
      name := ← r.required "name" text
      description := ← r.optional "description" text
      columns := ← r.required "columns" (list StoredColumn.decode)
      constraints := ← r.defaulted "constraints" (list KeyConstraintRow.decode) []
      foreignKeys := ← r.defaulted "foreign_keys" (list ForeignKeyRow.decode) [] }

end StoredTable

namespace StoredParameter

/-- The input as a record. -/
def toJson (p : StoredParameter) : Json :=
  .object
    [("name", .string p.name), ("native_type", .string p.nativeType),
     ("type_schema", .optional .string p.typeSchema),
     ("is_user_defined", .bool p.isUserDefined), ("has_default", .bool p.hasDefault),
     ("is_output", .bool p.isOutput)]

/-- The input of a record. -/
def decode : Decoder StoredParameter :=
  record ["name", "native_type", "type_schema", "is_user_defined", "has_default", "is_output"]
    fun r => do
      return {
        name := ← r.required "name" text
        nativeType := ← r.required "native_type" text
        typeSchema := ← r.optional "type_schema" text
        isUserDefined := ← r.defaulted "is_user_defined" truth false
        hasDefault := ← r.defaulted "has_default" truth false
        isOutput := ← r.defaulted "is_output" truth false }

end StoredParameter

namespace StoredRoutine

/-- The routine as a record. -/
def toJson (s : StoredRoutine) : Json :=
  .object
    [("schema", .string s.schema), ("name", .string s.name),
     ("specific_name", .optional .string s.specificName), ("kind", .string s.kind.word),
     ("return_type", .optional .string s.returnType), ("returns_set", .bool s.returnsSet),
     ("result_signature", .optional .string s.resultSignature),
     ("description", .optional .string s.description),
     ("parameters", .list StoredParameter.toJson s.parameters),
     ("result_columns", .list ResultColumnRow.toJson s.resultColumns)]

/-- The routine of a record. -/
def decode : Decoder StoredRoutine :=
  record ["schema", "name", "specific_name", "kind", "return_type", "returns_set",
      "result_signature", "description", "parameters", "result_columns"] fun r => do
    return {
      schema := ← r.required "schema" text
      name := ← r.required "name" text
      specificName := ← r.optional "specific_name" text
      kind := ← r.required "kind" (word RoutineKind.table)
      returnType := ← r.optional "return_type" text
      returnsSet := ← r.defaulted "returns_set" truth false
      resultSignature := ← r.optional "result_signature" text
      description := ← r.optional "description" text
      parameters := ← r.defaulted "parameters" (list StoredParameter.decode) []
      resultColumns := ← r.defaulted "result_columns" (list ResultColumnRow.decode) [] }

end StoredRoutine

namespace CatalogSnapshot

/-- The snapshot as a record. -/
def toJson (s : CatalogSnapshot) : Json :=
  .object
    [("provider", .string s.engine.word), ("tables", .list StoredTable.toJson s.tables),
     ("routines", .list StoredRoutine.toJson s.routines),
     ("user_types", .list UserTypeRow.toJson s.userTypes)]

/-- The snapshot of a record. -/
def decode : Decoder CatalogSnapshot :=
  record ["provider", "tables", "routines", "user_types"] fun r => do
    return {
      engine := ← r.required "provider" (word Engine.table)
      tables := ← r.defaulted "tables" (list StoredTable.decode) []
      routines := ← r.defaulted "routines" (list StoredRoutine.decode) []
      userTypes := ← r.defaulted "user_types" (list UserTypeRow.decode) [] }

/-- The snapshot that a JSON text holds. -/
def ofJsonText (s : String) : Outcome CatalogSnapshot :=
  match (Json.read? s).bind (ofJson? decode) with
  | some snapshot => .ok snapshot
  | none => .error .json

/-- The snapshot that a YAML text holds. -/
def ofYamlText (s : String) : Outcome CatalogSnapshot :=
  match (Yaml.read? s).bind (ofYaml? decode) with
  | some snapshot => .ok snapshot
  | none => .error .yaml

end CatalogSnapshot

end SchemaModel
