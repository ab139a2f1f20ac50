import SchemaModel.Model.Field

/-!
# `SchemaModel.Model.ApplicationType` — types backed by tables

## Contents
- `DeleteType`: how rows are removed.
- `Constraint`: a key constraint by the names of its fields.
- `ApplicationType`: a table with its fields and constraints, its key, and what its fields and
  overrides say about it.
-/

namespace SchemaModel

/-! ## Parts -/

/-- How rows of a type are removed. -/
inductive DeleteType where
  | none
  | soft
  | hard
  deriving DecidableEq, Repr, Inhabited

namespace DeleteType

/-- The word for the way of removal. -/
def word : DeleteType → String
  | .none => "none"
  | .soft => "soft"
  | .hard => "hard"

/-- The way that a word in any letter case names. -/
def parse? (s : String) : Option DeleteType :=
  let key := Text.lowercase s
  if key == "none" then some .none
  else if key == "soft" then some .soft
  else if key == "hard" then some .hard
  else Option.none

end DeleteType

/-- A primary key or unique constraint with the names of its fields. -/
structure Constraint where
  name : String
  kind : KeyKind
  fields : List String
  deriving DecidableEq, Repr, Inhabited

/-! ## Types -/

/-- A table. -/
structure ApplicationType where
  name : String
  schema : String
  fields : List Field
  constraints : List Constraint
  attributes : Option Attributes
  deriving Inhabited

namespace ApplicationType

/-- The identity of the type. -/
def key (t : ApplicationType) : TypeKey := ⟨t.schema, t.name⟩

/-- The field of exactly this name. -/
def field? (t : ApplicationType) (name : String) : Option Field :=
  t.fields.find? fun f => f.name == name

/-- The fields marked as key. -/
def keyFields (t : ApplicationType) : List Field := t.fields.filter Field.isKey

/-- The single key field. -/
def keyField (t : ApplicationType) : Outcome Field :=
  match t.keyFields with
  | [single] => .ok single
  | [] => Fault.setting (.noPrimaryKey t.key.text)
  | _ => .error (.compositeKey t.key.text)

/-- The unique constraints. -/
def uniqueConstraints (t : ApplicationType) : List Constraint :=
  t.constraints.filter fun c => c.kind == .unique

/-- The first primary key. -/
def primaryKey? (t : ApplicationType) : Option Constraint :=
  t.constraints.find? fun c => c.kind == .primary

/-- Holds the application's users. -/
def isSecurityPrincipal (t : ApplicationType) : Bool := t.attributes.any Attributes.securityPrincipal

/-- Is a static look-up table. -/
def isReferenceData (t : ApplicationType) : Bool := t.attributes.any Attributes.referenceData

/-- Joins two tables: exactly two foreign keys, and nothing else that a caller fills in. -/
def isLinkTable (t : ApplicationType) (style : NamingStyle) : Bool :=
  (t.fields.filter Field.hasReference).length == 2 &&
    (t.fields.filter fun f => !f.hasReference).all fun f => f.isSystemManaged style

/-- Carries the content of files. -/
def isAttachment (t : ApplicationType) : Bool := t.fields.any Field.isFile

/-- Lists of rows come in pages; those of reference data only on request. -/
def isPaginated (t : ApplicationType) : Bool :=
  (t.attributes.bind Attributes.paginated?).getD !t.isReferenceData

/-- The field that marks rows as deleted. -/
def softDeleteField? (t : ApplicationType) (style : NamingStyle) : Option Field :=
  t.fields.find? fun f => f.isSoftDelete style

/-- How rows are removed: as the overrides say, else softly when a field allows it. -/
def deleteType (t : ApplicationType) (style : NamingStyle) : DeleteType :=
  match (t.attributes.bind Attributes.delete?).bind DeleteType.parse? with
  | some explicit => explicit
  | none => if (t.softDeleteField? style).isSome then .soft else .hard

/-- The fields marked as labels. -/
def displayFields (t : ApplicationType) : List Field := t.fields.filter Field.isDisplay

/-- The field shown as a row's label: one marked so, else one named `name` or `title`. -/
def displayField? (t : ApplicationType) (style : NamingStyle) : Option Field :=
  match t.fields.find? Field.isDisplay with
  | some f => some f
  | none => t.fields.find? fun f =>
    style.lowerWords f.name == ["name"] || style.lowerWords f.name == ["title"]

/-- The field that holds the creator of a row. -/
def createdByField? (t : ApplicationType) (style : NamingStyle) : Option Field :=
  t.fields.find? fun f => f.isCreatedBy style

end ApplicationType

end SchemaModel
