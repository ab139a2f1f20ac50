import SchemaModel.Attributes
import SchemaModel.Catalog.Rows

/-!
# `SchemaModel.Model.Field` — fields of types and shapes

A field is a column with its value type. What role it plays (who fills it in, whether rows are
tracked or deleted by it) is derived from its name, its kind of value and its overrides.

## Contents
- `TypeKey`: how types, shapes and operations are named.
- `FieldReference`, `Field`: a column and the field that it points at.
- **Tracking**, **content** and **origin**: the derived roles. Those that depend on the name take
  the naming style.
-/

namespace SchemaModel

/-! ## Keys -/

/-- The identity of a type, a shape or an operation inside a domain. -/
structure TypeKey where
  schema : String
  name : String
  deriving DecidableEq, Repr, Inhabited

/-- The key as messages show it. -/
def TypeKey.text (key : TypeKey) : String := qualifiedText key.schema key.name

/-- Two keys are the same to the engine. -/
def Engine.keysEqual (engine : Engine) (a b : TypeKey) : Bool :=
  engine.namesEqual a.schema b.schema && engine.namesEqual a.name b.name

theorem Engine.keysEqual_refl (engine : Engine) (a : TypeKey) : engine.keysEqual a a = true := by
  simp [keysEqual, namesEqual_refl]

theorem Engine.keysEqual_comm (engine : Engine) (a b : TypeKey) :
    engine.keysEqual a b = engine.keysEqual b a := by
  unfold keysEqual
  rw [namesEqual_comm engine a.schema, namesEqual_comm engine a.name]

theorem Engine.keysEqual_trans (engine : Engine) {a b c : TypeKey}
    (hab : engine.keysEqual a b = true) (hbc : engine.keysEqual b c = true) :
    engine.keysEqual a c = true := by
  unfold keysEqual at *
  rw [Bool.and_eq_true] at *
  exact ⟨engine.namesEqual_trans hab.1 hbc.1, engine.namesEqual_trans hab.2 hbc.2⟩

/-- Keys that are the same to the engine compare alike with every third one. -/
theorem Engine.keysEqual_congr (engine : Engine) {a b : TypeKey}
    (h : engine.keysEqual a b = true) (c : TypeKey) :
    engine.keysEqual c a = engine.keysEqual c b := by
  rw [Bool.eq_iff_iff]
  constructor
  · intro hc
    exact engine.keysEqual_trans hc h
  · intro hc
    exact engine.keysEqual_trans hc (engine.keysEqual_comm a b ▸ h)

/-- The target of a foreign key. -/
structure FieldReference where
  typeKey : TypeKey
  field : String
  deriving DecidableEq, Repr, Inhabited

/-! ## Fields -/

/-- A column of a type or of a shape. A field without value type has a native type outside the
tables. -/
structure Field where
  name : String
  order : Int
  nativeType : String
  valueType : Option ValueType
  isRequired : Bool
  size : Option Int
  precision : Option Int
  scale : Option Int
  isKey : Bool
  isGenerated : Bool
  isComputed : Bool
  defaultValue : Option String
  references : Option FieldReference
  attributes : Option Attributes
  deriving Inhabited

namespace Field

/-- A field that may be null and has no flags. -/
def blank (name : String) (order : Int) (nativeType : String) : Field where
  name := name
  order := order
  nativeType := nativeType
  valueType := none
  isRequired := false
  size := none
  precision := none
  scale := none
  isKey := false
  isGenerated := false
  isComputed := false
  defaultValue := none
  references := none
  attributes := none

/-- The field may be null. -/
def isNullable (f : Field) : Bool := !f.isRequired

/-- The field with its nullability set, on the value type as well. -/
def setRequired (f : Field) (required : Bool) : Field :=
  { f with
    isRequired := required
    valueType := f.valueType.map fun t => t.withNullability !required }

/-- The kind of value. -/
def kind? (f : Field) : Option ValueKind := f.valueType.map ValueType.kind

/-- The field holds single values of a kind with the property. -/
def kindIs (f : Field) (test : ValueKind → Bool) : Bool :=
  f.valueType.any fun t => !t.array && test t.kind

/-- The field points at another one. -/
def hasReference (f : Field) : Bool := f.references.isSome

/-- The last word of the field's name. -/
def lastWord? (f : Field) (style : NamingStyle) : Option String :=
  (style.lowerWords f.name).getLast?

/-! ## Tracking -/

/-- Holds the time of a row's creation. -/
def isCreatedTimestamp (f : Field) (style : NamingStyle) : Bool :=
  f.kindIs ValueKind.isDateTime && style.isCreatedTimestamp f.name

/-- Holds the time of a row's last change. -/
def isModifiedTimestamp (f : Field) (style : NamingStyle) : Bool :=
  f.kindIs ValueKind.isDateTime && style.isModifiedTimestamp f.name

/-- Holds the user who created a row. -/
def isCreatedBy (f : Field) (style : NamingStyle) : Bool := style.isCreatedBy f.name

/-- Holds the user who last changed a row. -/
def isModifiedBy (f : Field) (style : NamingStyle) : Bool := style.isModifiedBy f.name

/-- Holds a user who created or changed a row. -/
def isTrackingUser (f : Field) (style : NamingStyle) : Bool :=
  f.isCreatedBy style || f.isModifiedBy style

/-- Holds a time of creation or change. -/
def isTrackingTimestamp (f : Field) (style : NamingStyle) : Bool :=
  f.isCreatedTimestamp style || f.isModifiedTimestamp style

/-- Marks a row as deleted. -/
def isSoftDelete (f : Field) (style : NamingStyle) : Bool :=
  f.kindIs (fun k => k == .boolean || k.isDateTime) && style.isSoftDelete f.name

/-! ## Content -/

/-- Serves full-text search. -/
def isSearchVector (f : Field) : Bool :=
  NativeType.normalize f.nativeType == "tsvector" || f.attributes.any Attributes.searchVector

/-- Holds a row-version stamp. -/
def isRowVersion (f : Field) : Bool :=
  f.kindIs (· == .binary) && NativeType.isRowVersion f.nativeType

/-- Holds the content of a file. -/
def isFile (f : Field) : Bool :=
  f.kindIs (· == .binary) && !NativeType.isRowVersion f.nativeType

/-- Texts longer than this are large. -/
def largeTextThreshold : Int := 1000

/-- Holds text of unbounded or great length. -/
def isLargeText (f : Field) : Bool :=
  f.kindIs (· == .string) && !f.isSearchVector &&
    match f.size with
    | none => true
    | some size => decide (largeTextThreshold < size)

/-- Holds a rating. -/
def isRating (f : Field) (style : NamingStyle) : Bool :=
  f.kindIs ValueKind.isInteger && f.lastWord? style == some "rating"

/-- Holds a colour. -/
def isColor (f : Field) (style : NamingStyle) : Bool :=
  f.kindIs (· == .string) &&
    (f.lastWord? style == some "color" || f.lastWord? style == some "colour")

/-- Labels its row. -/
def isDisplay (f : Field) : Bool := f.attributes.any Attributes.display

/-- Left out of projections. -/
def isExcludedFromResults (f : Field) (style : NamingStyle) : Bool :=
  f.isSoftDelete style || f.isSearchVector

/-! ## Origin -/

/-- A key that the database assigns. -/
def isAutoAssignedIdentity (f : Field) : Bool :=
  f.isKey && f.isGenerated && f.kindIs fun k => k.isInteger || k == .guid

/-- Filled in by the database or by generated statements. -/
def isSystemManaged (f : Field) (style : NamingStyle) : Bool :=
  f.isGenerated || f.isComputed || f.isRowVersion || f.isSearchVector ||
    f.isTrackingTimestamp style || f.isTrackingUser style || f.isSoftDelete style

/-- Filled in by the caller when a row is inserted. -/
def isCallerProvided (f : Field) (style : NamingStyle) : Bool := !f.isSystemManaged style

/-- Editable once the row exists. -/
def isUserEditable (f : Field) (style : NamingStyle) : Bool :=
  f.isCallerProvided style && !f.isKey

end Field

end SchemaModel
