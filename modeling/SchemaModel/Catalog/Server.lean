import SchemaModel.Catalog.Reader

/-!
# `SchemaModel.Catalog.Server` — asking a database server

A server runs statements and answers with rows of cells. This module says what both engines need to
make catalog rows of them.

## Contents
- `Cell`, `Cells`: an answer. Every accessor is total: a cell that is missing or of another kind
  reads as nothing.
- `Statement`, `Server`: what is asked, and who answers, over a state of its own.
- `groupKeys`: rows of key constraints, one a column, as one constraint a name.
-/

namespace SchemaModel

/-! ## Cells -/

/-- A value in a row of an answer. -/
inductive Cell where
  | null
  | text (value : String)
  | int (value : Int)
  | bool (value : Bool)
  deriving DecidableEq, Repr, Inhabited

/-- A row of an answer. -/
abbrev Cells := List Cell

namespace Cells

/-- The cell at a place. -/
def cell (row : Cells) (place : Nat) : Cell := row.getD place .null

/-- A text that may be missing. -/
def text? (row : Cells) (place : Nat) : Option String :=
  match row.cell place with
  | .text s => some s
  | _ => none

/-- A text; a missing one is empty. -/
def text (row : Cells) (place : Nat) : String := (row.text? place).getD ""

/-- A number that may be missing. -/
def int? (row : Cells) (place : Nat) : Option Int :=
  match row.cell place with
  | .int n => some n
  | _ => none

/-- A number; a missing one is zero. -/
def int (row : Cells) (place : Nat) : Int := (row.int? place).getD 0

/-- A truth value that may be missing. -/
def bool? (row : Cells) (place : Nat) : Option Bool :=
  match row.cell place with
  | .bool b => some b
  | _ => none

/-- A truth value; a missing one is false. -/
def bool (row : Cells) (place : Nat) : Bool := (row.bool? place).getD false

/-- A truth value that is written as the number one. -/
def flag (row : Cells) (place : Nat) : Bool := row.int place == 1

end Cells

/-! ## Servers -/

/-- What stands for a parameter of a statement: a text, or a list of texts. -/
inductive Argument where
  | text (value : String)
  | texts (values : List String)
  deriving DecidableEq, Repr, Inhabited

/-- A statement with what stands for its parameters. -/
structure Statement where
  sql : String
  arguments : List Argument
  deriving DecidableEq, Repr, Inhabited

/-- An exchange with a server in state `σ`; it may fail for a reason. -/
abbrev Exchange (σ α : Type) := ExceptT String (StateM σ) α

/-- Who answers statements, over a state `σ`. -/
structure Server (σ : Type) where
  /-- The rows of a query. -/
  query : Statement → Exchange σ (List Cells)
  /-- Runs a statement and counts the rows it touched. -/
  execute : String → Exchange σ Nat
  /-- The server answers at all. -/
  ping : Exchange σ Unit

/-! ## Key constraints -/

/-- A row of a key constraint: its name, its kind as the catalog writes it, and one column. -/
structure KeyColumn where
  name : String
  constraintType : String
  column : String
  deriving DecidableEq, Repr, Inhabited

/-- Adds a column to the constraint of a name, which becomes the last one if it is new. -/
def addKeyColumn (name : String) (kind : KeyKind) (column : String) :
    List KeyConstraintRow → List KeyConstraintRow
  | [] => [⟨name, kind, [column]⟩]
  | c :: rest =>
    if c.name = name then { c with columns := c.columns ++ [column] } :: rest
    else c :: addKeyColumn name kind column rest

/-- Takes up a row; one that is no key of a known kind is passed over. -/
def takeKeyColumn (constraints : List KeyConstraintRow) (row : KeyColumn) :
    List KeyConstraintRow :=
  match KeyKind.ofConstraintType? row.constraintType with
  | some kind => addKeyColumn row.name kind row.column constraints
  | none => constraints

/-- The constraints of some rows, one a name, in order of their first rows. The kind is that of the
first row, and the columns stand in the order of the rows. -/
def groupKeys (rows : List KeyColumn) : List KeyConstraintRow := rows.foldl takeKeyColumn []

/-- The row of a key constraint in an answer. -/
def keyColumn (row : Cells) : KeyColumn := ⟨row.text 0, row.text 1, row.text 2⟩

/-- The row of a foreign key in an answer. -/
def foreignKeyRow (row : Cells) : ForeignKeyRow :=
  ⟨row.text 0, row.text 1, row.text 2, row.text 3, row.text 4⟩

end SchemaModel
