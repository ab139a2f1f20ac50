import SchemaModel.CommandLine.Listing
import SchemaModel.CommandLine.Request
import SchemaModel.Catalog.Opening
import SchemaModel.Configuration
import SchemaModel.Inspection.Inspector
import SchemaModel.Model.DomainSnapshot

/-!
# `SchemaModel.CommandLine.Plan` — what an invocation comes to

What an invocation prints and keeps depends on the files it finds, on the time and on nothing else.
A domain is kept in a file before anything is printed, and nothing is printed when that fails.

## Contents
- `Circumstances`: the files, the time, and how long the database took to answer.
- `Plan`: what to keep, what to print, what to warn about, and the fault that ends it.
- **Tasks.** `inspectPlan`, `dropPlan`, `healthPlan`; `Invocation.plan` chooses.
- `Plan.settle`: what is printed once the file was written or could not be.
- `Invocation.sources`: the files that an invocation reads.
-/

namespace SchemaModel.CommandLine

/-! ## Plans -/

/-- What an invocation finds. -/
structure Circumstances where
  files : Files
  now : Time.Instant
  /-- How many milliseconds the database took to answer. -/
  latency : Nat

/-- What an invocation comes to. -/
structure Plan where
  /-- A file to write, and its text. -/
  keep : Option (String × String)
  /-- What is printed. -/
  output : String
  log : List Warning
  /-- The statements that were run. -/
  executed : List String
  fault : Option Fault

/-- A plan that ends with a fault and prints nothing. -/
def Plan.failed (log : List Warning) (executed : List String) (e : Fault) : Plan :=
  ⟨none, "", log, executed, some e⟩

/-- The plan, or the plan that ends with the fault. -/
def Plan.ofOutcome (plan : Outcome Plan) : Plan :=
  match plan with
  | .ok plan => plan
  | .error e => .failed [] [] e

/-- What an invocation prints, reports and ends with. -/
structure Report where
  output : String
  log : List Warning
  fault : Option Fault

/-- The status that the program ends with. -/
def Report.exitCode (r : Report) : Nat := (r.fault.map Fault.exitCode).getD 0

/-- What comes of a plan once its file was written, or could not be. -/
def Plan.settle (p : Plan) (written : Except String Unit) : Report :=
  match written with
  | .ok _ => ⟨p.output, p.log, p.fault⟩
  | .error reason => ⟨"", p.log, some (.io reason)⟩

/-! ## Reading -/

namespace Circumstances

/-- The configuration in a file. -/
def configuration (c : Circumstances) (path : String) : Outcome Configuration := do
  Configuration.ofYaml (← c.files.text path)

/-- The domain that was kept in a file. -/
def domainSnapshot (c : Circumstances) (path : String) : Outcome DomainSnapshot := do
  DomainSnapshot.ofText (← c.files.text path)

end Circumstances

/-- The configuration with another type filter, if there is one. -/
def withTypeFilter (c : Configuration) (filter : Option String) : Configuration :=
  match filter with
  | some name => { c with generation := { c.generation with typeFilter := some name } }
  | none => c

/-- Reads a catalog into a domain. -/
def inspected (c : Configuration) (catalog : CatalogSnapshot) :
    Inspection.Run (List String) Domain :=
  Inspection.run (Inspection.inspect catalog.catalog c.generation) []
    (.blank catalog.engine (c.generation.namingFor catalog.engine) "")

/-- A domain as it is kept. -/
def snapshotOf (c : Circumstances) (configuration : Configuration) (d : Domain) : DomainSnapshot :=
  ⟨configuration.digest, c.now, d⟩

/-- The file in which a domain is kept, if any. -/
def keepIn (path : Option String) (s : DomainSnapshot) : Option (String × String) :=
  path.map fun path => (path, s.toText)

/-- JSON in lines. -/
def jsonLines (j : Json) : String := lines [j.pretty]

/-! ## Tasks -/

/-- What an inspection prints: with a filter the types that it selects, else everything. -/
def inspectOutput (asJson : Bool) (filter : Option String) (d : Domain)
    (selected : List ApplicationType) : String :=
  if asJson then
    jsonLines (if filter.isSome then .list ApplicationType.toJson selected else d.toJson)
  else lines (domainLines d selected)

/-- Shows a domain and keeps it. -/
def inspectPlan (c : Circumstances) (i : Invocation) (snapshot typeFilter : Option String) :
    Outcome Plan := do
  let configuration := withTypeFilter (← c.configuration i.configuration) typeFilter
  let catalog ← configuration.database.openCatalog c.files
  let run := inspected configuration catalog
  let filter := configuration.generation.typeFilter
  match run.result with
  | .error e => return .failed run.log run.catalog e
  | .ok d =>
    match d.typesForGeneration filter with
    | .error e => return .failed run.log run.catalog e
    | .ok selected =>
      return {
        keep := keepIn snapshot (snapshotOf c configuration d)
        output := inspectOutput i.asJson filter d selected
        log := run.log
        executed := run.catalog
        fault := none }

/-- What dropping prints. -/
def dropOutput (asJson execute : Bool) (statements : List String) : String :=
  if asJson then jsonLines (.list .string statements)
  else if statements.isEmpty then lines ["No generated objects to drop"]
  else lines <| statements ++
    if execute then []
    else ["", Decimal.text statements.length ++ " statements (not executed; pass --execute)"]

/-- The statements that drop what is gone, and those that were run. -/
def dropStatements (catalog : CatalogSnapshot) (execute : Bool) (old new : Domain)
    (executed : List String) : Outcome (List String) × List String :=
  if execute then Inspection.dropGenerated catalog.catalog old new executed
  else (DropPlan.statements old new, executed)

/-- Drops what is gone since an earlier domain, and keeps the new one. -/
def dropPlan (c : Circumstances) (i : Invocation) (previous : String) (snapshot : Option String)
    (execute : Bool) : Outcome Plan := do
  let configuration ← c.configuration i.configuration
  let old ← c.domainSnapshot previous
  let catalog ← configuration.database.openCatalog c.files
  let run := inspected configuration catalog
  match run.result with
  | .error e => return .failed run.log run.catalog e
  | .ok d =>
    let new := snapshotOf c configuration d
    -- A comparison across configurations or engines is made all the same.
    let log := run.log ++ old.compatibility new ++ DropPlan.warnings old.domain d
    match dropStatements catalog execute old.domain d run.catalog with
    | (.error e, executed) => return .failed log executed e
    | (.ok statements, executed) =>
      return {
        keep := keepIn snapshot new
        output := dropOutput i.asJson execute statements
        log := log
        executed := executed
        fault := none }

/-- What a check of the database prints. -/
def healthOutput (asJson : Bool) (engine : Engine) (latency : Nat) (fault : Option Fault) :
    String :=
  if asJson then
    jsonLines <| .object
      [("connected", .bool fault.isNone),
       ("error", match fault with
         | some e => .string e.message
         | none => .null),
       ("latency_ms", .int latency), ("provider", .string engine.title)]
  else
    lines <|
      ["Health Check Results:",
       "  Database (" ++ engine.title ++ "): " ++ (if fault.isNone then "OK" else "FAILED") ++
         " (" ++ Decimal.text latency ++ "ms)"] ++
      match fault with
      | some e => ["    Error: " ++ e.message]
      | none => []

/-- Checks that the database answers. -/
def healthPlan (c : Circumstances) (i : Invocation) : Outcome Plan := do
  let configuration ← c.configuration i.configuration
  let catalog ← configuration.database.openCatalog c.files
  let (answer, executed) := catalog.catalog.testConnection []
  let fault := match answer with
    | .ok _ => none
    | .error e => some e
  return {
    keep := none
    output := healthOutput i.asJson catalog.engine c.latency fault
    log := []
    executed := executed
    fault := fault }

namespace Invocation

/-- What an invocation comes to. -/
def plan (i : Invocation) (c : Circumstances) : Plan :=
  .ofOutcome <|
    match i.task with
    | .inspect snapshot typeFilter => inspectPlan c i snapshot typeFilter
    | .dropGenerated previous snapshot execute => dropPlan c i previous snapshot execute
    | .healthCheck => healthPlan c i

/-- The files that an invocation reads besides its configuration, which is given if it can be
read. -/
def sources (i : Invocation) (configuration : Except String String) : List String :=
  let catalog := match configuration with
    | .ok text =>
      match Configuration.ofYaml text with
      | .ok c => c.database.catalogFile.toList
      | .error _ => []
    | .error _ => []
  match i.task with
  | .dropGenerated previous _ _ => previous :: catalog
  | _ => catalog

/-- Warnings are shown. -/
def showsWarnings (i : Invocation) : Bool := Text.lowercase i.verbosity != "error"

end Invocation

/-! ## Texts about the program -/

/-- The program and its version. -/
def versionText : String := lines ["schemaforge 0.3.0"]

/-- How the program is called. -/
def helpText : String :=
  lines
    ["Reads the catalog of a PostgreSQL or SQL Server database into a domain model.", "",
     "Usage: schemaforge [OPTIONS] <COMMAND>", "",
     "Commands:",
     "  inspect         Show the domain [--snapshot <FILE>] [--type-filter <NAME>]",
     "  drop-generated  Drop what is gone --previous <FILE> [--snapshot <FILE>] [--execute]",
     "  health-check    Check that the database answers", "",
     "Options:",
     "  -c, --config <FILE>      Configuration [schemaforge.yaml]",
     "      --output-json        Print JSON",
     "      --log-format <NAME>  Format of warnings",
     "      --verbosity <LEVEL>  debug, info, warn or error",
     "  -h, --help               Print this text",
     "  -V, --version            Print the version"]

end SchemaModel.CommandLine
