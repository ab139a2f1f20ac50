import SchemaModel.Settings
import SchemaModel.Connection.Database
import SchemaModel.Digest.Sha256
import SchemaModel.Yaml.Reader
import SchemaModel.Yaml.Writer

/-!
# `SchemaModel.Configuration` — what a run is told

## Contents
- `Configuration`: the database and the settings that shape the domain.
- `ofYaml`: reads a configuration and checks it.
- `toYaml`, `digest`: the configuration without secrets as a text, and a digest of that text. Two
  configurations that differ in secrets alone have the same digest.
-/

namespace SchemaModel

/-- What a run is told. -/
structure Configuration where
  database : DatabaseSettings
  generation : Settings
  deriving DecidableEq, Repr, Inhabited

/-- The text has no characters but blanks. -/
def isBlankText (s : String) : Bool := Text.trimmed s == ""

/-- No name in the settings is blank. -/
def Settings.check (s : Settings) : Outcome Unit :=
  if s.excludedSchemas.any isBlankText then Fault.setting .blankExclusion
  else if s.typeFilter.any isBlankText then
    Fault.setting (.blankSetting "generation.type_filter")
  else if s.defaultNamespace.any isBlankText then
    Fault.setting (.blankSetting "generation.default_namespace")
  else .ok ()

namespace Configuration

/-- The configuration of a record. -/
def decode : Decode.Decoder Configuration :=
  Decode.record ["database", "generation"] fun r => do
    return {
      database := ← r.required "database" DatabaseSettings.decode
      generation := ← r.defaulted "generation" Settings.decode .standard }

/-- The configuration is complete and no name in it is blank. -/
def check (c : Configuration) : Outcome Unit := do
  c.database.check
  c.generation.check

/-- The configuration that a YAML text holds. -/
def ofYaml (s : String) : Outcome Configuration :=
  match (Yaml.read? s).bind (Decode.ofYaml? decode) with
  | some c => c.check.map fun _ => c
  | none => .error .yaml

/-- The configuration without secrets. -/
def publicFields (c : Configuration) : Json.Fields :=
  [("database", .object c.database.publicFields), ("generation", c.generation.toJson)]

/-- The configuration without secrets as a text. -/
def toYaml (c : Configuration) : String := Yaml.render c.publicFields

/-- A digest of the configuration without secrets. -/
def digest (c : Configuration) : String := Sha256.hexDigest c.toYaml

end Configuration

end SchemaModel
