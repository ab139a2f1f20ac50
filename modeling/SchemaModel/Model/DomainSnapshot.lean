import SchemaModel.Json.Reader
import SchemaModel.Json.Writer
import SchemaModel.Model.Record
import SchemaModel.Time.Rfc3339

/-!
# `SchemaModel.Model.DomainSnapshot` — domains kept between runs

## Contents
- `DomainSnapshot`: a domain, when it was read, and a digest of the configuration that it was read
  with.
- `toText`, `ofText`: the snapshot as indented JSON text, and back.
- `compatibility`: a warning when two snapshots come from different configurations.
-/

namespace SchemaModel

open Decode

/-- A domain as it was at some time. -/
structure DomainSnapshot where
  configHash : String
  takenAt : Time.Instant
  domain : Domain

namespace DomainSnapshot

/-- The snapshot as a record. -/
def toJson (s : DomainSnapshot) : Json :=
  .object
    [("config_hash", .string s.configHash), ("taken_at", .string (Time.write s.takenAt)),
     ("domain", s.domain.toJson)]

/-- A time as a text. -/
def decodeTime : Decoder Time.Instant := fun scope d => do return ← Time.read? (← text scope d)

/-- The snapshot of a record. -/
def decode : Decoder DomainSnapshot :=
  record ["config_hash", "taken_at", "domain"] fun r => do
    return {
      configHash := ← r.required "config_hash" text
      takenAt := ← r.required "taken_at" decodeTime
      domain := ← r.required "domain" Domain.decode }

/-- The snapshot as a text. -/
def toText (s : DomainSnapshot) : String := s.toJson.pretty

/-- The snapshot that a text holds. -/
def ofText (s : String) : Outcome DomainSnapshot :=
  match (Json.read? s).bind (ofJson? decode) with
  | some snapshot => .ok snapshot
  | none => .error .json

/-- A warning when two snapshots come from different configurations. -/
def compatibility (own other : DomainSnapshot) : List Warning :=
  if own.configHash = other.configHash then []
  else [.differentConfigurations own.configHash other.configHash]

end DomainSnapshot

end SchemaModel
