import SchemaModel.Json.Reader
import SchemaModel.Json.Basic
import SchemaModel.Text.Cut
import SchemaModel.Warning

/-!
# `SchemaModel.Attributes` — overrides in annotations

Tables, columns, routines and user-defined types may carry a comment that is a JSON object of
overrides. Any other comment is plain text and holds none.

## Contents
- `Attributes`: a bag of overrides, its keys in order and its values in normal form.
- `Attributes.parse`: the bag in an annotation, with a warning when it is malformed.
- **Look-up.** `get?` takes a key literally or, failing that, as a path of keys joined by points;
  `text?`, `truth?` and `flag` read what it finds.
- `merged`: the union of two bags, the second winning.
- **Known keys**, each with its accessor.
-/

namespace SchemaModel

/-- A bag of overrides. -/
structure Attributes where
  fields : Json.Fields
  normal : Json.Normal (.object fields)

namespace Attributes

/-- The bag of some entries, the last one of each key. -/
def ofFields (fields : Json.Fields) : Attributes :=
  ⟨Json.normalizeFields [] fields, Json.normal_normalize (.object fields)⟩

/-- The empty bag. -/
def empty : Attributes := ⟨[], ⟨List.Pairwise.nil, trivial⟩⟩

instance : Inhabited Attributes := ⟨empty⟩

@[ext] theorem ext_fields {a b : Attributes} (h : a.fields = b.fields) : a = b := by
  cases a; cases b; cases h; rfl

/-- The bag with a value under a key. -/
def insert (a : Attributes) (key : String) (item : Json) : Attributes :=
  ⟨Json.Fields.insert key (Json.normalize item) a.fields,
    a.normal.1.insert key _, Json.fieldsNormal_insert (Json.normal_normalize item) a.normal.2⟩

/-- The bag of an annotation's JSON text. -/
def ofText? (text : String) : Option Attributes :=
  match Json.read? text with
  | some (.entries fields) =>
    match Json.ofDocument? Json.depthLimit (.entries fields) with
    | some (.object fields) => some (ofFields fields)
    | _ => none
  | _ => none

/-- The overrides in the annotation of `owner`. An annotation that starts like an object and is
none is ignored with a warning. -/
def parse (comment : Option String) (owner : String) : Option Attributes × List Warning :=
  match comment with
  | none => (none, [])
  | some text =>
    let text := Text.trimmed text
    if text.toList.head? == some '\x7b' then
      match ofText? text with
      | some a => (some a, [])
      | none => (none, [.malformedOverrides owner])
    else (none, [])

/-! ## Look-up -/

/-- The value at the end of a path of keys. -/
def walk : List String → Json → Option Json
  | [], value => some value
  | key :: path, .object fields =>
    match Json.Fields.get? key fields with
    | some value => walk path value
    | none => none
  | _ :: _, _ => none

/-- The value under a key, or under the path that it spells. -/
def get? (a : Attributes) (key : String) : Option Json :=
  match Json.Fields.get? key a.fields with
  | some value => some value
  | none => walk (Text.split '.' key) (.object a.fields)

/-- The text under a key. -/
def text? (a : Attributes) (key : String) : Option String := (a.get? key).bind Json.asString?

/-- The truth value that a JSON value stands for: itself, one of a few words in any letter case, or
an integer other than zero. -/
def truthOf? : Json → Option Bool
  | .bool b => some b
  | .string s =>
    let word := Text.lowercase s
    if ["true", "yes", "1"].contains word then some true
    else if ["false", "no", "0"].contains word then some false
    else none
  | .number n => n.toInt64?.map fun value => value != 0
  | _ => none

/-- The truth value under a key. -/
def truth? (a : Attributes) (key : String) : Option Bool := (a.get? key).bind truthOf?

/-- The truth value under a key, false when there is none. -/
def flag (a : Attributes) (key : String) : Bool := (a.truth? key).getD false

/-- Something stands under a key. -/
def contains (a : Attributes) (key : String) : Bool := (a.get? key).isSome

/-- The keys, in order. -/
def keys (a : Attributes) : List String := a.fields.map Prod.fst

/-- The number of keys. -/
def size (a : Attributes) : Nat := a.fields.length

/-! ## Union -/

theorem ordered_insertAll {base more : Json.Fields} (h : base.Ordered) :
    (Json.Fields.insertAll base more).Ordered := by
  induction more generalizing base with
  | nil => exact h
  | cons entry rest ih => exact ih (h.insert _ _)

theorem normal_insertAll {base more : Json.Fields} (hb : Json.FieldsNormal base)
    (hm : Json.FieldsNormal more) : Json.FieldsNormal (Json.Fields.insertAll base more) := by
  induction more generalizing base with
  | nil => exact hb
  | cons entry rest ih => exact ih (Json.fieldsNormal_insert hm.1 hb) hm.2

/-- The union of two bags; where both have a key, the second one's value stands. -/
def union (base overrides : Attributes) : Attributes :=
  ⟨Json.Fields.insertAll base.fields overrides.fields, ordered_insertAll base.normal.1,
    normal_insertAll base.normal.2 overrides.normal.2⟩

/-- The union of two bags that may be missing. -/
def merged : Option Attributes → Option Attributes → Option Attributes
  | none, none => none
  | some b, none => some b
  | none, some o => some o
  | some b, some o => some (b.union o)

/-! ## Known keys -/

/-- The table that an operation or result type is about. -/
def applicationType? (a : Attributes) : Option String := a.text? "applicationtype"

/-- A routine shaped like a set yields one row or value. -/
def singleResult (a : Attributes) : Bool := a.flag "single_result"

/-- A composite type is a result shape. -/
def isResult (a : Attributes) : Bool := a.flag "isResult"

/-- Callable without a signed-in user. -/
def securityAnonymous? (a : Attributes) : Option Bool := a.truth? "security.anon"

/-- Callable by any signed-in user. -/
def securityUser? (a : Attributes) : Option Bool := a.truth? "security.user"

/-- Emitted by an earlier run. -/
def generated (a : Attributes) : Bool := a.flag "generated"

/-- The name to give to a synthesized result type. -/
def resultTypeName? (a : Attributes) : Option String := a.text? "result_type"

/-- A name to use in place of the routine's own. -/
def customName? (a : Attributes) : Option String := a.text? "name"

/-- The table holds the application's users. -/
def securityPrincipal (a : Attributes) : Bool := a.flag "security_principal"

/-- The table is a static look-up table. -/
def referenceData (a : Attributes) : Bool := a.flag "reference_data"

/-- Lists of rows come in pages. -/
def paginated? (a : Attributes) : Option Bool := a.truth? "paginated"

/-- How rows are deleted. -/
def delete? (a : Attributes) : Option String := a.text? "delete"

/-- The field labels its row. -/
def display (a : Attributes) : Bool := a.flag "display"

/-- The column serves full-text search. -/
def searchVector (a : Attributes) : Bool := a.flag "search_vector"

/-- The operation changes data, whatever its name says. -/
def changesData? (a : Attributes) : Option Bool := a.truth? "changes_data"

/-- The operation inserts, whatever its name says. -/
def createsNew? (a : Attributes) : Option Bool := a.truth? "creates_new"

end Attributes

end SchemaModel
