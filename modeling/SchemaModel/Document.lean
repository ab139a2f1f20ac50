import SchemaModel.Json.Number
import SchemaModel.Yaml.Tag

/-!
# `SchemaModel.Document` — structured text before it has a meaning

A document is what a reader of structured text finds: scalars, lists and entries, in the order and
with the repetitions of the text. What a scalar means is settled later, by the type that is wanted
in its place.

## Contents
- `Document`: the tree. A `number` has no value when it is too big for any; a `scalar` may name a
  number, a truth value, nothing, or itself; an `alias` stands for another document by its number;
  `unreadable` is a quoted string whose escapes name no text.
- `Document.size`: the number of parts that a document is written in.
- `DocumentGraph`: a document together with those that its aliases stand for.
-/

namespace SchemaModel

/-- Structured text as it stands. -/
inductive Document where
  | null
  | bool (value : Bool)
  | number (value : Option Json.Number)
  | text (value : String)
  | scalar (value : Yaml.Scalar)
  | alias (target : Nat)
  | unreadable
  | list (items : List Document)
  | entries (fields : List (Document × Document))
  deriving Inhabited

namespace Document

mutual

/-- The number of scalars, aliases, and starts and ends of collections. -/
def size : Document → Nat
  | .list items => 2 + sizeAll items
  | .entries fields => 2 + sizeEntries fields
  | _ => 1

/-- The number of parts of a list of documents. -/
def sizeAll : List Document → Nat
  | [] => 0
  | d :: rest => size d + sizeAll rest

/-- The number of parts of keys and what stands under them. -/
def sizeEntries : List (Document × Document) → Nat
  | [] => 0
  | (key, d) :: rest => size key + size d + sizeEntries rest

end

end Document

/-- A document and those that its aliases stand for; of several with one number the first counts. An
alias may lead back to a document that it stands in. -/
structure DocumentGraph where
  root : Document
  targets : List (Nat × Document)
  deriving Inhabited

end SchemaModel
