import SchemaModel.Inspection.Tables
import SchemaModel.Inspection.Operations
import SchemaModel.DropPlan

/-!
# `SchemaModel.Inspection.Inspector` — from a catalog to a domain

## Contents
- `inspect`: tables, then operations, then a report of what does not hang together.
- `Outcome` of whole runs: `run` starts an inspection from a catalog's state and gives the result,
  the warnings and the state after it.
- `register`: runs statements when the settings say so.
- `dropGenerated`: plans drop statements and runs them in order up to the first failure.
-/

namespace SchemaModel.Inspection

open Inspect

variable {σ α : Type}

/-- Reads tables and operations into a domain, then reports what does not hang together. -/
def inspect (catalog : Catalog σ) (settings : Settings) : Inspect σ Domain := do
  loadTypes catalog settings
  loadOperations catalog settings
  let d ← getDomain
  warnAll (d.validateReferences.map .inconsistency)
  warnAll (d.sanityCheck.map .inconsistency)
  return d

/-- The domain that the tables alone give. -/
def inspectTypes (catalog : Catalog σ) (settings : Settings) : Inspect σ Domain := do
  loadTypes catalog settings
  getDomain

/-- What came of a run: its result, its warnings, the domain it left and the catalog's state. -/
structure Run (σ α : Type) where
  result : Outcome α
  log : List Warning
  domain : Domain
  catalog : σ

/-- Runs steps from a catalog's state and a domain. -/
def run (steps : Inspect σ α) (catalog : σ) (domain : Domain) : Run σ α :=
  let (result, progress) := steps ⟨catalog, [], domain⟩
  ⟨result, progress.log, progress.domain, progress.catalog⟩

/-- Runs statements in order up to the first failure. -/
def executeAll (catalog : Catalog σ) : List String → Reading σ Unit
  | [] => return ()
  | sql :: rest => do
    let _ ← catalog.execute sql
    executeAll catalog rest

/-- Runs freshly generated statements when the settings say so, and counts them. -/
def register (catalog : Catalog σ) (settings : Settings) (statements : List String) :
    Reading σ Nat := do
  if settings.registerGenerated then
    executeAll catalog statements
    return statements.length
  else return 0

/-- Runs the drop statements between two domains and gives them back. -/
def dropGenerated (catalog : Catalog σ) (old new : Domain) : Reading σ (List String) := do
  match DropPlan.statements old new with
  | .error e => throw e
  | .ok statements =>
    executeAll catalog statements
    return statements

end SchemaModel.Inspection
