/-!
# `SchemaModel.Value` — value types

The types of values that columns and parameters of either engine hold.

## Contents
- `ValueKind`: the classification, with its words in records (`word`) and in messages
  (`typeName`).
- `ValueType`: a kind with the nullable and array adjustments.
-/

namespace SchemaModel

/-- What kind of value a column or parameter holds. -/
inductive ValueKind where
  | boolean
  | byte
  | int16
  | int32
  | int64
  | single
  | double
  | decimal
  | string
  | json
  | xml
  | dateTime
  | dateTimeOffset
  | dateOnly
  | timeOnly
  | timeSpan
  | binary
  | guid
  | object
  | resultType
  deriving DecidableEq, Repr, Inhabited

namespace ValueKind

/-- Every kind. -/
def all : List ValueKind :=
  [.boolean, .byte, .int16, .int32, .int64, .single, .double, .decimal, .string, .json, .xml,
   .dateTime, .dateTimeOffset, .dateOnly, .timeOnly, .timeSpan, .binary, .guid, .object,
   .resultType]

/-- The word for a kind in records. -/
def word : ValueKind → String
  | .boolean => "Boolean"
  | .byte => "Byte"
  | .int16 => "Int16"
  | .int32 => "Int32"
  | .int64 => "Int64"
  | .single => "Single"
  | .double => "Double"
  | .decimal => "Decimal"
  | .string => "String"
  | .json => "Json"
  | .xml => "Xml"
  | .dateTime => "DateTime"
  | .dateTimeOffset => "DateTimeOffset"
  | .dateOnly => "DateOnly"
  | .timeOnly => "TimeOnly"
  | .timeSpan => "TimeSpan"
  | .binary => "Binary"
  | .guid => "Guid"
  | .object => "Object"
  | .resultType => "ResultType"

/-- The kinds by their words. -/
def table : List (String × ValueKind) := all.map fun kind => (kind.word, kind)

/-- The name of the type in messages. -/
def typeName : ValueKind → String
  | .boolean => "bool"
  | .byte => "byte"
  | .int16 => "short"
  | .int32 => "int"
  | .int64 => "long"
  | .single => "float"
  | .double => "double"
  | .decimal => "decimal"
  | .string => "string"
  | .json => "JsonDocument"
  | .xml => "XmlDocument"
  | .dateTime => "DateTime"
  | .dateTimeOffset => "DateTimeOffset"
  | .dateOnly => "DateOnly"
  | .timeOnly => "TimeOnly"
  | .timeSpan => "TimeSpan"
  | .binary => "byte[]"
  | .guid => "Guid"
  | .object => "object"
  | .resultType => "ResultType"

/-- Values of this kind need an explicit nullable form. -/
def isValueType : ValueKind → Bool
  | .string | .json | .xml | .binary | .object | .resultType => false
  | _ => true

/-- Whole numbers. -/
def isInteger : ValueKind → Bool
  | .byte | .int16 | .int32 | .int64 => true
  | _ => false

/-- Numbers. -/
def isNumeric : ValueKind → Bool
  | .single | .double | .decimal => true
  | kind => kind.isInteger

/-- Dates with a time of day. -/
def isDateTime : ValueKind → Bool
  | .dateTime | .dateTimeOffset => true
  | _ => false

/-- Texts. -/
def isText : ValueKind → Bool
  | .string | .json | .xml => true
  | _ => false

end ValueKind

/-- A kind of value with its nullable and array adjustments. -/
structure ValueType where
  kind : ValueKind
  nullable : Bool
  array : Bool
  deriving DecidableEq, Repr, Inhabited

namespace ValueType

/-- A single value of a kind, never null. -/
def of (kind : ValueKind) : ValueType := ⟨kind, false, false⟩

/-- Arrays of an element type. -/
def arrayOf (element : ValueType) : ValueType := ⟨element.kind, false, true⟩

/-- The nullable form. Texts, objects and arrays have no other. -/
def nullableForm (t : ValueType) : ValueType :=
  if t.kind.isValueType && !t.array then { t with nullable := true } else t

/-- The form that is never null. -/
def nonNullable (t : ValueType) : ValueType := { t with nullable := false }

/-- The form for a column that may or may not be null. -/
def withNullability (t : ValueType) (isNullable : Bool) : ValueType :=
  if isNullable then t.nullableForm else t.nonNullable

/-- The value is a row of a composite type. -/
def isResultType (t : ValueType) : Bool := t.kind == .resultType

/-- The type in messages: name, `?` for nullable, `[]` for arrays. -/
def text (t : ValueType) : String :=
  t.kind.typeName ++ (if t.nullable then "?" else "") ++ (if t.array then "[]" else "")

end ValueType

end SchemaModel
