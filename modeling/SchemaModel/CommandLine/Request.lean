import SchemaModel.CommandLine.Options

/-!
# `SchemaModel.CommandLine.Request` — what a command line asks for

## Contents
- `Task`, `Invocation`: what to do, and with which configuration and output.
- `Request`: an invocation, or a text about the program.
- `Request.ofWords?`: the request of a command line; none for one that is written wrong. Options of
  the program stand before the name of the task, and options of the task behind it.
-/

namespace SchemaModel.CommandLine

/-- What to do. -/
inductive Task where
  /-- Show the domain, and keep it for later. -/
  | inspect (snapshot typeFilter : Option String)
  /-- Drop what is gone since an earlier domain. -/
  | dropGenerated (previous : String) (snapshot : Option String) (execute : Bool)
  /-- Check that the database answers. -/
  | healthCheck
  deriving DecidableEq, Repr

/-- What to do, and how. -/
structure Invocation where
  configuration : String
  asJson : Bool
  verbosity : String
  task : Task
  deriving DecidableEq, Repr

/-- What a command line asks for. -/
inductive Request where
  | perform (invocation : Invocation)
  | help
  | version
  deriving DecidableEq, Repr

/-! ## Options -/

/-- The option for help. -/
def helpOption : OptionSpec := ⟨"help", some 'h', .ends .help⟩

/-- The options of the program. -/
def programOptions : List OptionSpec :=
  [⟨"config", some 'c', .path⟩, ⟨"output-json", none, .nothing⟩, ⟨"log-format", none, .text⟩,
   ⟨"verbosity", none, .text⟩, ⟨"version", some 'V', .ends .version⟩, helpOption]

/-- The options of an inspection. -/
def inspectOptions : List OptionSpec :=
  [⟨"snapshot", none, .path⟩, ⟨"type-filter", none, .text⟩, helpOption]

/-- The options of dropping. -/
def dropOptions : List OptionSpec :=
  [⟨"previous", none, .path⟩, ⟨"snapshot", none, .path⟩, ⟨"execute", none, .nothing⟩, helpOption]

/-! ## Tasks -/

/-- What the words behind the name of a task say. -/
inductive Behind (α : Type) where
  | wrong
  | help
  | found (value : α)

/-- The task that options behind its name describe. No plain word may follow them. -/
def behind {α : Type} (specs : List OptionSpec) (make : Given → Option α) (words : List String) :
    Behind α :=
  match Options.ofWords specs none [] words with
  | .ended _ => .help
  | .read given [] =>
    match make given with
    | some value => .found value
    | none => .wrong
  | _ => .wrong

/-- An option that takes nothing was given. -/
def isGiven (given : Given) (name : String) : Bool := (given.lookup name).isSome

/-- The names of the tasks. -/
def taskNames : List String := ["inspect", "drop-generated", "health-check"]

/-- A name that help can be asked about. -/
def isTopic (name : String) : Bool := taskNames.contains name || name == "help"

/-- The task of the words from its name on. -/
def taskOfWords : List String → Behind Task
  | [] => .wrong
  | name :: rest =>
    if name == "inspect" then
      behind inspectOptions
        (fun given => some (.inspect (given.lookup "snapshot") (given.lookup "type-filter"))) rest
    else if name == "drop-generated" then
      behind dropOptions
        (fun given => (given.lookup "previous").map fun previous =>
          .dropGenerated previous (given.lookup "snapshot") (isGiven given "execute")) rest
    else if name == "health-check" then
      behind [helpOption] (fun _ => some .healthCheck) rest
    else if name == "help" then
      match rest with
      | [] => .help
      | [topic] => if isTopic topic then .help else .wrong
      | _ => .wrong
    else .wrong

/-! ## Requests -/

/-- The file that a configuration is in unless another one is named. -/
def standardConfiguration : String := "schemaforge.yaml"

/-- The invocation of a task under the options of the program. -/
def invocation (given : Given) (task : Task) : Invocation where
  configuration := (given.lookup "config").getD standardConfiguration
  asJson := isGiven given "output-json"
  verbosity := (given.lookup "verbosity").getD "info"
  task := task

/-- The request of a command line. -/
def Request.ofWords? (words : List String) : Option Request :=
  match Options.ofWords programOptions none [] words with
  | .wrong => none
  | .ended .help => some .help
  | .ended .version => some .version
  | .read given rest =>
    match taskOfWords rest with
    | .wrong => none
    | .help => some .help
    | .found task => some (.perform (invocation given task))

end SchemaModel.CommandLine
