import SchemaModel.Text.Quoted
import SchemaModel.Decimal.Digits

/-!
# `SchemaModel.Fault` — what can go wrong

Every way in which reading a catalog, building a domain or planning statements can fail, as data,
with one rendering.

## Contents
- `Misconfiguration`: what is wrong with a setting or an identifier.
- `Fault`: the causes. `kind` names the class, `exitCode` is the status of a command that ends with
  it, `message` is its text and `report` the text shown to the user.
- `Outcome`: a result or a fault. Whether there is a result with a property can be decided.
-/

namespace SchemaModel

/-! ## Settings and identifiers -/

/-- What is wrong with a setting or an identifier. -/
inductive Misconfiguration where
  | stated (reason : String)
  | emptyIdentifier
  | nulInIdentifier (name : String)
  | longIdentifier (name : String)
  | unknownEngine (word : String)
  | unknownSslMode (word : String)
  | tlsDisabled
  | catalogFileMissing
  | settingMissing (key : String)
  | emptyPool
  | blankExclusion
  | blankSetting (key : String)
  | connectionString
  | noPrimaryKey (type : String)
  deriving DecidableEq, Repr

/-- Identifiers are at most this many bytes long in UTF-8. -/
def identifierLimit : Nat := 128

/-- The reason in words. -/
def Misconfiguration.message : Misconfiguration → String
  | .stated reason => reason
  | .emptyIdentifier => "Identifier cannot be empty"
  | .nulInIdentifier name =>
    "SECURITY: Identifier contains null byte (possible injection attempt): " ++ Text.quoted name
  | .longIdentifier name =>
    "SECURITY: Identifier exceeds maximum length of " ++ Decimal.text identifierLimit ++
      " bytes (got " ++ Decimal.text name.utf8ByteSize ++ " bytes): " ++ Text.quoted name
  | .unknownEngine word =>
    "Unknown database type: '" ++ word ++ "'. Supported types: mssql, postgres"
  | .unknownSslMode word =>
    "Invalid database.ssl_mode '" ++ word ++
      "'. Valid values: disable, require, verify-ca, verify-full"
  | .tlsDisabled => "Cannot build TLS config for ssl_mode=disable"
  | .catalogFileMissing => "database.catalog_file is required for the memory provider"
  | .settingMissing key => key ++ " is required"
  | .emptyPool => "database.pool_size must be at least 1"
  | .blankExclusion => "generation.excluded_schemas must not contain empty names"
  | .blankSetting key => key ++ " must not be empty when set"
  | .connectionString => "database.connection_string: malformed"
  | .noPrimaryKey type => "Type " ++ type ++ " has no primary key"

/-! ## Faults -/

/-- Why an operation failed. -/
inductive Fault where
  | config (cause : Misconfiguration)
  | postgres
  | sqlServer
  | pool (reason context : String)
  | query (statement reason : String)
  | missingField (table field context : String)
  | unknownUserType (schema name : String)
  | unresolvedParameter (operation parameter : String)
  | typeFilter (filter : String)
  | compositeKey (type : String)
  | io (reason : String)
  | yaml
  | json
  deriving DecidableEq, Repr

/-- A result, or why there is none. -/
abbrev Outcome (α : Type) := Except Fault α

namespace Outcome

variable {α β : Type}

theorem bind_eq_ok {x : Outcome α} {f : α → Outcome β} {b : β} :
    (x >>= f) = .ok b ↔ ∃ a, x = .ok a ∧ f a = .ok b := by
  cases x with
  | error e => exact iff_of_false nofun fun ⟨_, h, _⟩ => nomatch h
  | ok a => exact ⟨fun h => ⟨a, rfl, h⟩, fun ⟨_, h, hf⟩ => Except.ok.inj h ▸ hf⟩

theorem map_eq_ok {x : Outcome α} {f : α → β} {b : β} :
    x.map f = .ok b ↔ ∃ a, x = .ok a ∧ f a = b := by
  cases x with
  | error e => exact iff_of_false nofun fun ⟨_, h, _⟩ => nomatch h
  | ok a =>
      refine ⟨fun h => ⟨a, rfl, Except.ok.inj h⟩, fun ⟨_, h, hf⟩ => ?_⟩
      cases h
      exact congrArg Except.ok hf

theorem mapError_map {γ : Type} {x : Outcome α} {f : α → β} {g : Fault → γ} :
    (x.map f).mapError g = (x.mapError g).map f := by
  cases x <;> rfl

theorem mapError_eq_ok {γ : Type} {x : Outcome α} {g : Fault → γ} {a : α} :
    x.mapError g = .ok a ↔ x = .ok a := by
  cases x with
  | error e => exact iff_of_false nofun nofun
  | ok b => exact ⟨fun h => congrArg Except.ok (Except.ok.inj h), congrArg (Except.mapError g)⟩

/-- Outcomes with one image give one result, or faults with one image. -/
theorem mapError_cases {γ : Type} {x y : Outcome α} {g : Fault → γ}
    (h : x.mapError g = y.mapError g) :
    (∃ a, x = .ok a ∧ y = .ok a) ∨ ∃ e e', x = .error e ∧ y = .error e' ∧ g e = g e' := by
  cases x with
  | ok a => exact .inl ⟨a, rfl, mapError_eq_ok.1 h.symm⟩
  | error e =>
      cases y with
      | ok a => cases h
      | error e' => exact .inr ⟨e, e', rfl, rfl, Except.error.inj h⟩

/-- Either there is a result or there is a fault. -/
theorem isError_iff {x : Outcome α} : (∃ e, x = .error e) ↔ ¬∃ a, x = .ok a := by
  cases x with
  | error e => exact iff_of_true ⟨e, rfl⟩ fun ⟨_, h⟩ => nomatch h
  | ok a => exact iff_of_false (fun ⟨_, h⟩ => nomatch h) (not_not_intro ⟨a, rfl⟩)

/-- Whether there is a result with a property is told by the result. -/
instance {x : Outcome α} {p : α → Prop} [DecidablePred p] : Decidable (∃ a, x = .ok a ∧ p a) :=
  match x with
  | .ok a =>
    decidable_of_iff (p a) ⟨fun h => ⟨a, rfl, h⟩, fun ⟨_, hsame, h⟩ => Except.ok.inj hsame ▸ h⟩
  | .error _ => .isFalse fun ⟨_, hsame, _⟩ => nomatch hsame

/-- A test that the fault of an outcome passes gives the fault. -/
theorem eq_error_of_test {x : Outcome α} {e : Fault}
    (h : (match x with | .ok _ => false | .error e' => decide (e' = e)) = true) :
    x = .error e := by
  cases x with
  | error e' => exact congrArg Except.error (of_decide_eq_true h)
  | ok a => cases h

/-- A test that the fault of an outcome passes gives the fault's image. -/
theorem mapError_eq_error {γ : Type} [DecidableEq γ] {x : Outcome α} {g : Fault → γ} {c : γ}
    (h : (match x with | .ok _ => false | .error e => decide (g e = c)) = true) :
    x.mapError g = .error c := by
  cases x with
  | error e => exact congrArg Except.error (of_decide_eq_true h)
  | ok a => cases h

end Outcome

namespace Fault

/-- The class of the fault. -/
def kind : Fault → String
  | .config _ => "Config"
  | .postgres => "Postgres"
  | .sqlServer => "SqlServer"
  | .pool _ _ => "Pool"
  | .query _ _ => "Query"
  | .missingField _ _ _ => "MissingField"
  | .unknownUserType _ _ => "UnknownUserType"
  | .unresolvedParameter _ _ => "UnresolvedParameter"
  | .typeFilter _ => "TypeFilter"
  | .compositeKey _ => "CompositeKey"
  | .io _ => "Io"
  | .yaml => "Yaml"
  | .json => "Json"

/-- The status with which a command ends: 2 for what the user wrote, 3 for the database's refusal,
4 for a catalog that does not hang together, 1 for files. -/
def exitCode : Fault → Nat
  | .config _ | .yaml | .typeFilter _ => 2
  | .postgres | .sqlServer | .pool _ _ | .query _ _ => 3
  | .missingField _ _ _ | .unknownUserType _ _ | .unresolvedParameter _ _ | .compositeKey _ => 4
  | .io _ | .json => 1

/-- The fault in words. -/
def message : Fault → String
  | .config cause => "Configuration error: " ++ cause.message
  | .postgres => "PostgreSQL error"
  | .sqlServer => "SQL Server error"
  | .pool reason context => "Pool error: " ++ reason ++ "\n  Context: " ++ context
  | .query statement reason =>
    "Catalog query failed: " ++ reason ++ "\n  Statement: " ++ statement
  | .missingField table field context =>
    "Field '" ++ field ++ "' not found on table " ++ table ++ " while resolving " ++ context
  | .unknownUserType schema name =>
    "User-defined type " ++ schema ++ "." ++ name ++ " not found in catalog metadata"
  | .unresolvedParameter operation parameter =>
    "Parameter '" ++ parameter ++ "' of operation " ++ operation ++ " has no resolvable type"
  | .typeFilter filter => "Type filter '" ++ filter ++ "' does not match any application type"
  | .compositeKey type =>
    "Type " ++ type ++ " has a composite key; a single key field is required here"
  | .io reason => "IO error: " ++ reason
  | .yaml => "YAML error"
  | .json => "JSON error"

/-- The fault as reported to the user; a failed file operation repeats its cause. -/
def report (f : Fault) : String :=
  "Error: " ++ f.message ++ "\n" ++
    match f with
    | .io reason => "\nCaused by:\n  1: " ++ reason
    | _ => ""

/-- A setting is wrong. -/
def setting {α : Type} (cause : Misconfiguration) : Outcome α := .error (.config cause)

end Fault

end SchemaModel
