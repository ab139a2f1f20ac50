import SchemaModel.Catalog.Offline
import SchemaModel.Catalog.Record
import SchemaModel.Catalog.Postgres
import SchemaModel.Catalog.SqlServer

/-!
# `SchemaModel.Catalog.Opening` — from settings to a catalog

## Contents
- `fileExtension?`: what follows the last dot in the name of a file.
- `CatalogSnapshot.ofFile`: the catalog that a file holds, JSON or YAML by the file's name.
- `DatabaseSettings.unreached`: why a server cannot be asked where there is no network.
- `DatabaseSettings.openCatalog`: the catalog that settings name, given the files.
-/

namespace SchemaModel

/-- Reads a file by its path; or says why it cannot be read. -/
abbrev Files := String → Except String String

/-- The text of a file. -/
def Files.text (files : Files) (path : String) : Outcome String :=
  match files path with
  | .ok text => .ok text
  | .error reason => .error (.io reason)

/-- The name at the end of a path; it may be followed by slashes and by dots for the directory
itself. Two dots are no name. -/
def fileName? (path : String) : Option String :=
  match (Text.split '/' path).reverse.dropWhile fun part => part == "" || part == "." with
  | [] => none
  | name :: _ => if name == ".." then none else some name

/-- What follows the last dot in the name of a file. A dot in front begins no extension. -/
def fileExtension? (path : String) : Option String :=
  (fileName? path).bind fun name =>
    match (Text.split '.' name).reverse with
    | extension :: stem => if stem.all (· == "") && stem.length ≤ 1 then none else some extension
    | [] => none

namespace CatalogSnapshot

/-- The catalog in a file: JSON when its name says so, else YAML. -/
def ofFile (path text : String) : Outcome CatalogSnapshot :=
  if (fileExtension? path).any fun e => Text.eqIgnoreAsciiCase e "json" then ofJsonText text
  else ofYamlText text

end CatalogSnapshot

namespace DatabaseSettings

/-- Why a server cannot be asked where there is no network. -/
def unreached (s : DatabaseSettings) : Engine → Fault
  | .postgres =>
    match Postgres.target s with
    | .error e => e
    | .ok (target, _) =>
      let reason :=
        if target.endpoints?.isSome then "error connecting to server" else "invalid configuration"
      .pool ("Error occurred while creating a new object: " ++ reason) Postgres.testPurpose
  | .sqlServer =>
    match SqlServerTarget.ofSettings s with
    | .error e => e
    | .ok _ => .pool "error connecting to server" SqlServer.testPurpose

/-- The catalog that settings name: one that was written down, since no server is reached. -/
def openCatalog (files : Files) (s : DatabaseSettings) : Outcome CatalogSnapshot :=
  match s.provider with
  | .server engine => .error (s.unreached engine)
  | .memory =>
    match s.catalogFile with
    | none => Fault.setting .catalogFileMissing
    | some path => do CatalogSnapshot.ofFile path (← files.text path)

end DatabaseSettings

end SchemaModel
