import SchemaModel.Catalog.Reader
import SchemaModel.Model.Domain
import SchemaModel.Settings

/-!
# `SchemaModel.Inspection.Progress` — the state of an inspection

An inspection asks a catalog, reports what is odd, and builds up a domain. What it has built stays
when a later step fails.

## Contents
- `Progress`: the catalog's state, the warnings so far and the domain so far.
- `Inspect`: steps that may fail over that state.
- `ask`, `warn`, `warnAll`, `getDomain`, `setDomain`, `change`, `lift`: the single steps.
-/

namespace SchemaModel

/-- How far an inspection has come. -/
structure Progress (σ : Type) where
  catalog : σ
  log : List Warning
  domain : Domain

/-- A step of an inspection over a catalog with state `σ`. -/
abbrev Inspect (σ α : Type) := ExceptT Fault (StateM (Progress σ)) α

namespace Inspect

variable {σ α : Type}

/-- Asks the catalog. -/
def ask (question : Reading σ α) : Inspect σ α := fun progress =>
  let (answer, catalog) := question progress.catalog
  (answer, { progress with catalog := catalog })

/-- Reports a condition. -/
def warn (w : Warning) : Inspect σ Unit :=
  modify fun progress => { progress with log := progress.log ++ [w] }

/-- Reports several conditions. -/
def warnAll (ws : List Warning) : Inspect σ Unit :=
  modify fun progress => { progress with log := progress.log ++ ws }

/-- The domain so far. -/
def getDomain : Inspect σ Domain := return (← get).domain

/-- Replaces the domain. -/
def setDomain (d : Domain) : Inspect σ Unit :=
  modify fun progress => { progress with domain := d }

/-- Changes the domain. -/
def change (f : Domain → Domain) : Inspect σ Unit :=
  modify fun progress => { progress with domain := f progress.domain }

/-- A result that needs no catalog. -/
def lift (result : Outcome α) : Inspect σ α :=
  match result with
  | .ok a => pure a
  | .error e => throw e

end Inspect

end SchemaModel
