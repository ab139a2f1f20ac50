import SchemaModel.Catalog.Rows

/-!
# `SchemaModel.Catalog.TableSignature` — columns declared in a result text

PostgreSQL describes what a table-returning function returns in one text,
`TABLE(id integer, "Total" numeric(10,2))`. The columns are read off it in the order of
declaration; nothing is known about nulls, so each may be null.

## Contents
- `splitTopLevel`: the stretches between commas outside parentheses and double quotes.
- `quotedIdentifier?`: a quoted name up to its closing quote, a doubled quote standing for one.
- `column?`: a name and a type.
- `parse?`: the columns; `none` when the text is no table signature.
-/

namespace SchemaModel.TableSignature

/-! ## Splitting -/

/-- The stretches between commas at depth zero and outside quotes. -/
def splitFrom (depth : Nat) (inQuotes : Bool) : List Char → List (List Char)
  | [] => [[]]
  | c :: rest =>
    if c == ',' && !inQuotes && depth == 0 then [] :: splitFrom depth inQuotes rest
    else
      let depth' :=
        if inQuotes then depth
        else if c == '(' then depth + 1
        else if c == ')' then depth - 1
        else depth
      let inQuotes' := if c == '"' then !inQuotes else inQuotes
      match splitFrom depth' inQuotes' rest with
      | [] => [[c]]
      | piece :: more => (c :: piece) :: more

/-- The stretches between commas outside parentheses and double quotes. -/
def splitTopLevel (cs : List Char) : List (List Char) := splitFrom 0 false cs

/-! ## Columns -/

/-- The name before the closing quote, and what follows it; the text starts after the opening
quote. -/
def quotedIdentifier? : List Char → Option (List Char × List Char)
  | [] => none
  | '"' :: '"' :: rest => (quotedIdentifier? rest).map fun (name, tail) => ('"' :: name, tail)
  | c :: rest =>
    if c == '"' then some ([], rest)
    else (quotedIdentifier? rest).map fun (name, tail) => (c :: name, tail)

/-- A 32-bit integer with an optional sign. -/
def integer? (cs : List Char) : Option Int :=
  let value := match cs with
    | '-' :: ds => (Decimal.natural? ds).map fun n => -(n : Int)
    | '+' :: ds => (Decimal.natural? ds).map Int.ofNat
    | ds => (Decimal.natural? ds).map Int.ofNat
  value.filter fun n => -(Nat.pow 2 31 : Int) ≤ n && n < (Nat.pow 2 31 : Int)

/-- The length in a character type. -/
def typeSize? (nativeType : List Char) : Option Int :=
  let lower := (Text.lowercase (String.ofList nativeType)).toList
  if "char".toList.isPrefixOf lower || "varchar".toList.isPrefixOf lower then do
    let (_, _, rest) ← Text.breakAt? (· == '(') lower
    let (inside, _, _) ← Text.breakAt? (· == ')') rest
    integer? (Text.trim inside)
  else none

/-- A name, quoted or up to the first blank, and the type after it. -/
def nameAndType? : List Char → Option (List Char × List Char)
  | [] => none
  | c :: rest =>
    if c == '"' then (quotedIdentifier? rest).map fun (name, tail) => (name, Text.trim tail)
    else (Text.breakAt? Text.isBlank (c :: rest)).map fun (name, blank, tail) =>
      (name, Text.trim (blank :: tail))

/-- A column, trimmed, at a place in the list. -/
def column? (ordinal : Int) (cs : List Char) : Option ResultColumnRow :=
  match nameAndType? cs with
  | none => none
  | some (name, nativeType) =>
    if nativeType.isEmpty then none
    else some ⟨String.ofList name, ordinal, String.ofList nativeType, true, typeSize? nativeType⟩

/-- The columns of consecutive stretches, counted from a number on. A stretch that is no column is
counted and left out. -/
def columnsFrom (ordinal : Int) : List (List Char) → List ResultColumnRow
  | [] => []
  | cs :: rest =>
    match column? ordinal cs with
    | some column => column :: columnsFrom (ordinal + 1) rest
    | none => columnsFrom (ordinal + 1) rest

/-! ## Signatures -/

/-- What stands between the parentheses after `TABLE`, in any letter case. -/
def inner? (cs : List Char) : Option (List Char) := do
  let cs := Text.trim cs
  if (cs.take 5).map Text.asciiLower == "table".toList then
    Text.before? [')'] (← Text.after? ['('] (Text.trimLeft (cs.drop 5)))
  else none

/-- The columns of a table signature. -/
def parse? (signature : String) : Option (List ResultColumnRow) :=
  (inner? signature.toList).map fun inside =>
    columnsFrom 1 (((splitTopLevel inside).map Text.trim).filter fun part => !part.isEmpty)

end SchemaModel.TableSignature
