import SchemaModel.Fault
import SchemaModel.Text.Cut

/-!
# `SchemaModel.Identifier` — quoting names for SQL

## Contents
- **Validity.** `check` refuses empty names, names with a NUL and names of more than 128 bytes.
- **Marks.** `Marks.double` and `Marks.bracket` are the two ways to delimit a name; `wrap` writes
  the closing mark inside a name twice.
- **Quoting.** `quote` always delimits and checks first; `qualify` joins two quoted names by a
  point.
- **Splitting.** `splitQualified` takes `schema.name` apart and looks through quotes and brackets.
-/

namespace SchemaModel.Identifier

/-! ## Validity -/

/-- Refuses what cannot be an identifier. -/
def check (name : String) : Outcome Unit :=
  if name == "" then Fault.setting .emptyIdentifier
  else if name.toList.contains '\x00' then Fault.setting (.nulInIdentifier name)
  else if identifierLimit < name.utf8ByteSize then Fault.setting (.longIdentifier name)
  else .ok ()

/-! ## Quoting -/

/-- The characters around a delimited name. -/
structure Marks where
  opening : Char
  closing : Char
  deriving DecidableEq, Repr

/-- Double quotes. -/
def Marks.double : Marks := ⟨'"', '"'⟩

/-- Brackets. -/
def Marks.bracket : Marks := ⟨'[', ']'⟩

/-- The name between marks, with the closing mark doubled inside. -/
def wrap (marks : Marks) (name : String) : String :=
  String.ofList (marks.opening :: Text.double marks.closing name.toList ++ [marks.closing])

/-- The delimited form of a valid name. -/
def quote (marks : Marks) (name : String) : Outcome String := do
  check name
  return wrap marks name

/-- The delimited forms of a schema and a name, joined by a point. -/
def qualify (marks : Marks) (schema name : String) : Outcome String := do
  return (← quote marks schema) ++ "." ++ (← quote marks name)

/-! ## Splitting -/

/-- Where a scan of a qualified name stands. -/
structure Scan where
  inQuotes : Bool
  inBrackets : Bool
  deriving DecidableEq, Repr

/-- The pieces between points outside quotes and brackets, without the marks. -/
def parts (scan : Scan) : List Char → List (List Char)
  | [] => [[]]
  | c :: rest =>
    if c == '"' && !scan.inBrackets then parts { scan with inQuotes := !scan.inQuotes } rest
    else if c == '[' && !scan.inQuotes then parts { scan with inBrackets := true } rest
    else if c == ']' && !scan.inQuotes then parts { scan with inBrackets := false } rest
    else if c == '.' && !scan.inQuotes && !scan.inBrackets then [] :: parts scan rest
    else match parts scan rest with
      | [] => [[c]]
      | piece :: more => (c :: piece) :: more

/-- The schema, when one is given, and the name of a qualified name. -/
def splitQualified (name : String) : Option String × String :=
  match (parts ⟨false, false⟩ name.toList).reverse with
  | [] => (none, "")
  | [only] => (none, String.ofList only)
  | last :: schema :: _ => (some (String.ofList schema), String.ofList last)

end SchemaModel.Identifier
