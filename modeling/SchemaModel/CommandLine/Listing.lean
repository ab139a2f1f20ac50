import SchemaModel.Model.Domain

/-!
# `SchemaModel.CommandLine.Listing` — a domain in lines of text

## Contents
- `fieldLine`, `typeLines`, `operationLines`: the parts of a domain.
- `domainLines`: counts, then selected types with their fields, then all operations.
-/

namespace SchemaModel.CommandLine

/-- A text and a line end for every line. -/
def lines (ls : List String) : String := String.join (ls.map (· ++ "\n"))

/-- The marks of a field that has something special about it. -/
def fieldMarks (f : Field) : List String :=
  (if f.isKey then ["key"] else []) ++ (if f.isGenerated then ["generated"] else []) ++
    (if f.isComputed then ["computed"] else [])

/-- Where a reference leads. -/
def referenceMark (r : Option FieldReference) : String :=
  match r with
  | some r => " -> " ++ r.typeKey.text ++ "." ++ r.field
  | none => ""

/-- A field in one line. -/
def fieldLine (f : Field) : String :=
  "    " ++ f.name ++ " " ++ ((f.valueType.map ValueType.text).getD "?") ++ " [" ++
    Text.joined ", " (fieldMarks f) ++ "]" ++ referenceMark f.references

/-- A type with its fields. -/
def typeLines (t : ApplicationType) : List String :=
  ["", "  " ++ t.key.text] ++ t.fields.map fieldLine

/-- The kind of a return as it is shown. -/
def returnTitle : ReturnKind → String
  | .none => "None"
  | .primitive => "Primitive"
  | .applicationType => "ApplicationType"
  | .customType => "CustomType"

/-- What a return is of: a type by its key, else a value type. -/
def returnTarget (r : OperationReturn) : String :=
  match r.typeKey, r.valueType with
  | some key, _ => " " ++ key.text
  | none, some t => " " ++ t.text
  | none, none => ""

/-- An operation. -/
def operationLines (op : Operation) : List String :=
  ["", "  " ++ op.key.text ++ " (" ++ Decimal.text op.parameters.length ++ " parameters) -> " ++
    returnTitle op.returns.kind ++ returnTarget op.returns ++
    (if op.returns.multiple then " []" else "")]

/-- A domain with some of its types. -/
def domainLines (d : Domain) (selected : List ApplicationType) : List String :=
  ["Domain (" ++ d.engine.title ++ ", " ++ d.naming.title ++ " naming, namespace " ++
      d.defaultNamespace ++ "):",
   "  Types: " ++ Decimal.text d.types.length,
   "  Operations: " ++ Decimal.text d.operations.length,
   "  Result types: " ++ Decimal.text d.resultTypes.length] ++
    selected.flatMap typeLines ++ d.operations.flatMap operationLines

end SchemaModel.CommandLine
