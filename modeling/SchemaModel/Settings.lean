import SchemaModel.Document.Decode
import SchemaModel.Engine

/-!
# `SchemaModel.Settings` — what shapes the domain

## Contents
- `Settings`: the schemas to leave out, the naming style, the default namespace, the type filter,
  and whether generated statements are run.
- `namingFor`, `namespaceFor`: the setting, or the engine's default.
- `toJson`, `decode`: the settings as a record; what is not set is left out.
-/

namespace SchemaModel

/-- The settings that shape a domain. -/
structure Settings where
  excludedSchemas : List String
  naming : Option NamingStyle
  registerGenerated : Bool
  typeFilter : Option String
  defaultNamespace : Option String
  deriving DecidableEq, Repr, Inhabited

namespace Settings

/-- Nothing is left out and every choice is the engine's. -/
def standard : Settings := ⟨[], none, false, none, none⟩

/-- The naming style for an engine. -/
def namingFor (s : Settings) (engine : Engine) : NamingStyle := s.naming.getD engine.defaultNaming

/-- The namespace of unqualified names for an engine. -/
def namespaceFor (s : Settings) (engine : Engine) : String :=
  s.defaultNamespace.getD engine.defaultNamespace

/-- An entry for something that may be missing. -/
def entry (key : String) (value : Option String) : List (String × Json) :=
  match value with
  | some s => [(key, .string s)]
  | none => []

/-- The settings as a record. -/
def toJson (s : Settings) : Json :=
  .object <|
    [("excluded_schemas", .list .string s.excludedSchemas)] ++
    entry "naming" (s.naming.map NamingStyle.word) ++
    [("register_generated", .bool s.registerGenerated)] ++
    entry "type_filter" s.typeFilter ++
    entry "default_namespace" s.defaultNamespace

/-- The settings of a record. -/
def decode : Decode.Decoder Settings :=
  Decode.record ["excluded_schemas", "naming", "register_generated", "type_filter",
      "default_namespace"] fun r => do
    return {
      excludedSchemas := ← r.defaulted "excluded_schemas" (Decode.list Decode.text) []
      naming := ← r.optional "naming" (Decode.word NamingStyle.table)
      registerGenerated := ← r.defaulted "register_generated" Decode.truth false
      typeFilter := ← r.optional "type_filter" Decode.text
      defaultNamespace := ← r.optional "default_namespace" Decode.text }

end Settings

end SchemaModel
