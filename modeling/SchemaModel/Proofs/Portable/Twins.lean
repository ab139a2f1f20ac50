import Mathlib.Data.List.Forall2
import SchemaModel.Proofs.Naming.Roles
import SchemaModel.Proofs.Portable.Tables

/-!
# `SchemaModel.Proofs.Portable.Twins` — both engines tell the same about a portable schema

Read by PostgreSQL and by SQL Server, a portable schema comes to types that correspond one by one.
Names are the spellings of one name, native types are those of one shared type, and whatever follows
from names, values and overrides follows on both sides.

## Contents
- `SameName`, `SameKey`: spellings of one name in `snake_case` and `PascalCase`.
- `FieldTwins`, `ConstraintTwins`, `TypeTwins`: what corresponds, with everything that is derived.
- `FieldOutline.twins`, `TypeOutline.twins`: an outline stands for twins.
- `Schema.ReadInto`: the types of a domain are the tables of a schema.
- `tables_agree`: the table stage succeeds in both engines and gives twins, one for each table.
  `bookings` is a schema with keys and a reference.
-/

namespace SchemaModel.Portable

open Inspection

/-! ## Correspondence -/

/-- The two spell one name, the first in `snake_case` and the second in `PascalCase`. -/
def SameName (a b : String) : Prop :=
  ∃ name : Name, a = name.text .snakeCase ∧ b = name.text .pascalCase

/-- The two are keys of one name, the first under `public` and the second under `dbo`. -/
structure SameKey (a b : TypeKey) : Prop where
  leftSchema : a.schema = "public"
  rightSchema : b.schema = "dbo"
  name : SameName a.name b.name

/-- The references point at fields that correspond. -/
structure ReferenceTwins (a b : FieldReference) : Prop where
  typeKey : SameKey a.typeKey b.typeKey
  field : SameName a.field b.field

/-- The fields correspond, and every fact about one is a fact about the other. -/
structure FieldTwins (f g : Field) : Prop where
  name : SameName f.name g.name
  order : f.order = g.order
  nativeType : ∃ t : SharedType, f.nativeType = t.postgresName ∧ g.nativeType = t.sqlServerName
  valueType : f.valueType = g.valueType
  isRequired : f.isRequired = g.isRequired
  size : f.size = g.size
  precision : f.precision = g.precision
  scale : f.scale = g.scale
  isKey : f.isKey = g.isKey
  isGenerated : f.isGenerated = g.isGenerated
  isComputed : f.isComputed = g.isComputed
  defaultValue : f.defaultValue = g.defaultValue
  references : Option.Rel ReferenceTwins f.references g.references
  attributes : f.attributes = g.attributes
  facts : f.facts .snakeCase = g.facts .pascalCase

/-- The key constraints are of one kind and about fields that correspond. -/
structure ConstraintTwins (c c' : Constraint) : Prop where
  kind : c.kind = c'.kind
  fields : List.Forall₂ SameName c.fields c'.fields

/-- The single key fields correspond, or both types have none or both several. -/
inductive KeyFieldTwins (t u : ApplicationType) : Prop where
  | single {f g : Field} (left : t.keyField = .ok f) (right : u.keyField = .ok g)
      (twins : FieldTwins f g)
  | missing (left : t.keyField = Fault.setting (.noPrimaryKey t.key.text))
      (right : u.keyField = Fault.setting (.noPrimaryKey u.key.text))
  | several (left : t.keyField = .error (.compositeKey t.key.text))
      (right : u.keyField = .error (.compositeKey u.key.text))

/-- The types correspond, and so does everything that is derived from them. -/
structure TypeTwins (t u : ApplicationType) : Prop where
  key : SameKey t.key u.key
  fields : List.Forall₂ FieldTwins t.fields u.fields
  constraints : List.Forall₂ ConstraintTwins t.constraints u.constraints
  attributes : t.attributes = u.attributes
  isSecurityPrincipal : t.isSecurityPrincipal = u.isSecurityPrincipal
  isReferenceData : t.isReferenceData = u.isReferenceData
  isLinkTable : t.isLinkTable .snakeCase = u.isLinkTable .pascalCase
  isAttachment : t.isAttachment = u.isAttachment
  isPaginated : t.isPaginated = u.isPaginated
  deleteType : t.deleteType .snakeCase = u.deleteType .pascalCase
  keyFields : List.Forall₂ FieldTwins t.keyFields u.keyFields
  keyField : KeyFieldTwins t u
  primaryKey : Option.Rel ConstraintTwins t.primaryKey? u.primaryKey?
  uniqueConstraints : List.Forall₂ ConstraintTwins t.uniqueConstraints u.uniqueConstraints
  softDeleteField : Option.Rel FieldTwins (t.softDeleteField? .snakeCase)
    (u.softDeleteField? .pascalCase)
  displayFields : List.Forall₂ FieldTwins t.displayFields u.displayFields
  displayField : Option.Rel FieldTwins (t.displayField? .snakeCase) (u.displayField? .pascalCase)
  createdByField : Option.Rel FieldTwins (t.createdByField? .snakeCase)
    (u.createdByField? .pascalCase)

/-! ## Lists of twins -/

section Views

variable {α β : Type} {R : β → β → Prop} {left right : α → β}

/-- Two views of a list correspond element by element when they do on each element. -/
theorem forall₂_views (h : ∀ x, R (left x) (right x)) (xs : List α) :
    List.Forall₂ R (xs.map left) (xs.map right) := by
  rw [List.forall₂_map_left_iff, List.forall₂_map_right_iff, List.forall₂_same]
  exact fun x _ => h x

variable {p q : β → Bool} (hpq : ∀ x, p (left x) = q (right x))
include hpq

theorem forall₂_filter_views (h : ∀ x, R (left x) (right x)) (xs : List α) :
    List.Forall₂ R ((xs.map left).filter p) ((xs.map right).filter q) := by
  have hsame : p ∘ left = q ∘ right := funext hpq
  rw [List.filter_map, List.filter_map, hsame]
  exact forall₂_views h _

theorem rel_find?_views (h : ∀ x, R (left x) (right x)) (xs : List α) :
    Option.Rel R ((xs.map left).find? p) ((xs.map right).find? q) := by
  have hsame : p ∘ left = q ∘ right := funext hpq
  rw [List.find?_map, List.find?_map, hsame]
  cases xs.find? (q ∘ right) with
  | none => exact .none
  | some x => exact .some (h x)

theorem all_views (xs : List α) : (xs.map left).all p = (xs.map right).all q := by
  have hsame : p ∘ left = q ∘ right := funext hpq
  rw [List.all_map, List.all_map, hsame]

theorem any_views (xs : List α) : (xs.map left).any p = (xs.map right).any q := by
  have hsame : p ∘ left = q ∘ right := funext hpq
  rw [List.any_map, List.any_map, hsame]

end Views

theorem isSome_of_rel {α β : Type} {R : α → β → Prop} {a : Option α} {b : Option β}
    (h : Option.Rel R a b) : a.isSome = b.isSome := by
  cases h <;> rfl

theorem rel_or {α β : Type} {R : α → β → Prop} {a a' : Option α} {b b' : Option β}
    (h : Option.Rel R a b) (h' : Option.Rel R a' b') : Option.Rel R (a.or a') (b.or b') := by
  cases h with
  | none => exact h'
  | some hab => exact .some hab

/-! ## Outlines stand for twins -/

theorem sameName (name : Name) : SameName (name.on .postgres) (name.on .sqlServer) :=
  ⟨name, rfl, rfl⟩

theorem sameKey (name : Name) : SameKey (keyOn .postgres name) (keyOn .sqlServer name) :=
  ⟨rfl, rfl, sameName name⟩

namespace FieldOutline

theorem alike (f : FieldOutline) :
    Field.Alike .snakeCase .pascalCase (f.field .postgres) (f.field .sqlServer) where
  words := (f.name.lowerWords_text .snakeCase).trans (f.name.lowerWords_text .pascalCase).symm
  valueType := rfl
  isRequired := rfl
  size := rfl
  isKey := rfl
  isGenerated := rfl
  isComputed := rfl
  hasReference := by
    unfold Field.hasReference field
    rw [Option.isSome_map, Option.isSome_map]
  attributes := rfl
  searchVector := by
    unfold field
    rw [SharedType.normalize_native, SharedType.normalize_native, SharedType.native_ne_tsvector,
      SharedType.native_ne_tsvector]
  rowVersion := by
    unfold field
    rw [SharedType.isRowVersion_native, SharedType.isRowVersion_native]

theorem twins (f : FieldOutline) : FieldTwins (f.field .postgres) (f.field .sqlServer) where
  name := sameName f.name
  order := rfl
  nativeType := ⟨f.type, rfl, rfl⟩
  valueType := rfl
  isRequired := rfl
  size := rfl
  precision := rfl
  scale := rfl
  isKey := rfl
  isGenerated := rfl
  isComputed := rfl
  defaultValue := rfl
  references := by
    unfold field
    cases f.references with
    | none => exact .none
    | some target => exact .some ⟨sameKey target.1, sameName target.2⟩
  attributes := rfl
  facts := f.alike.facts

end FieldOutline

theorem Key.twins (k : Key) :
    ConstraintTwins (k.constraint .postgres) (k.constraint .sqlServer) where
  kind := rfl
  fields := forall₂_views sameName k.columns

theorem Key.isKind_twins (kind : KeyKind) (k : Key) :
    ((k.constraint .postgres).kind == kind) = ((k.constraint .sqlServer).kind == kind) := rfl

namespace TypeOutline

variable (t : TypeOutline)

theorem keyFields_twins :
    List.Forall₂ FieldTwins (t.type .postgres).keyFields (t.type .sqlServer).keyFields :=
  forall₂_filter_views (fun f => f.alike.isKey) FieldOutline.twins t.fields

theorem keyField_twins : KeyFieldTwins (t.type .postgres) (t.type .sqlServer) := by
  have htwins := t.keyFields_twins
  cases hleft : (t.type .postgres).keyFields with
  | nil =>
      rw [hleft] at htwins
      have hright := List.forall₂_nil_left_iff.1 htwins
      refine .missing ?_ ?_
      · unfold ApplicationType.keyField
        rw [hleft]
      · unfold ApplicationType.keyField
        rw [hright]
  | cons f rest =>
      rw [hleft] at htwins
      obtain ⟨g, more, hfg, hrest, hright⟩ := List.forall₂_cons_left_iff.1 htwins
      cases rest with
      | nil =>
          rw [List.forall₂_nil_left_iff.1 hrest] at hright
          refine .single (f := f) (g := g) ?_ ?_ hfg
          · unfold ApplicationType.keyField
            rw [hleft]
          · unfold ApplicationType.keyField
            rw [hright]
      | cons f' others =>
          obtain ⟨g', others', _, _, hmore⟩ := List.forall₂_cons_left_iff.1 hrest
          rw [hmore] at hright
          refine .several ?_ ?_
          · unfold ApplicationType.keyField
            rw [hleft]
          · unfold ApplicationType.keyField
            rw [hright]

theorem softDeleteField_twins :
    Option.Rel FieldTwins ((t.type .postgres).softDeleteField? .snakeCase)
      ((t.type .sqlServer).softDeleteField? .pascalCase) :=
  rel_find?_views (fun f => f.alike.isSoftDelete) FieldOutline.twins t.fields

theorem isLinkTable_twins :
    (t.type .postgres).isLinkTable .snakeCase = (t.type .sqlServer).isLinkTable .pascalCase := by
  have hlength := (forall₂_filter_views (fun f => f.alike.hasReference) FieldOutline.twins
    t.fields).length_eq
  unfold ApplicationType.isLinkTable
  dsimp only [type]
  rw [hlength, List.all_filter, List.all_filter]
  congr 1
  refine all_views (fun f => ?_) t.fields
  rw [f.alike.hasReference, f.alike.isSystemManaged]

theorem deleteType_twins :
    (t.type .postgres).deleteType .snakeCase = (t.type .sqlServer).deleteType .pascalCase := by
  unfold ApplicationType.deleteType
  rw [isSome_of_rel t.softDeleteField_twins]
  rfl

theorem displayField_twins :
    Option.Rel FieldTwins ((t.type .postgres).displayField? .snakeCase)
      ((t.type .sqlServer).displayField? .pascalCase) := by
  have hor : ∀ (style : NamingStyle) (u : ApplicationType), u.displayField? style =
      (u.fields.find? Field.isDisplay).or (u.fields.find? fun f =>
        style.lowerWords f.name == ["name"] || style.lowerWords f.name == ["title"]) := by
    intro style u
    unfold ApplicationType.displayField?
    cases u.fields.find? Field.isDisplay <;> rfl
  rw [hor, hor]
  refine rel_or (rel_find?_views (fun f => f.alike.isDisplay) FieldOutline.twins t.fields) ?_
  refine rel_find?_views (fun f => ?_) FieldOutline.twins t.fields
  rw [f.alike.words]

/-- An outline stands for types that correspond in everything. -/
theorem twins : TypeTwins (t.type .postgres) (t.type .sqlServer) where
  key := sameKey t.name
  fields := forall₂_views FieldOutline.twins t.fields
  constraints := forall₂_views Key.twins t.keys
  attributes := rfl
  isSecurityPrincipal := rfl
  isReferenceData := rfl
  isLinkTable := t.isLinkTable_twins
  isAttachment := any_views (fun f => f.alike.isFile) t.fields
  isPaginated := rfl
  deleteType := t.deleteType_twins
  keyFields := t.keyFields_twins
  keyField := t.keyField_twins
  primaryKey := rel_find?_views (Key.isKind_twins .primary) Key.twins t.keys
  uniqueConstraints := forall₂_filter_views (Key.isKind_twins .unique) Key.twins t.keys
  softDeleteField := t.softDeleteField_twins
  displayFields := forall₂_filter_views (fun f => f.alike.isDisplay) FieldOutline.twins t.fields
  displayField := t.displayField_twins
  createdByField := rel_find?_views (fun f => f.alike.isCreatedBy) FieldOutline.twins t.fields

end TypeOutline

/-! ## The table stage -/

/-- The settings with the customary style of names, and no schema left out. -/
def customary (settings : Settings) : Settings :=
  { settings with naming := none, excludedSchemas := [] }

/-- The types are the schema's tables and their fields the columns, in the order and under the names
that they have in the engine. Of two tables of one name the first one's columns count. -/
def Schema.ReadInto (schema : Schema) (engine : Engine) (d : Domain) : Prop :=
  d.types.map (fun t => (t.key, t.fields.map Field.name)) =
    schema.tables.map fun t =>
      (keyOn engine t.name, (schema.contents t).columns.map fun c => c.name.on engine)

theorem readInto_outlines (schema : Schema) (engine : Engine) (settings : Settings) :
    schema.ReadInto engine (domainOf engine settings schema.outlines) := by
  have hview : ∀ t : TypeOutline, ((t.type engine).key, (t.type engine).fields.map Field.name) =
      (keyOn engine t.signature.1, t.signature.2.map fun c => c.on engine) := by
    intro t
    unfold TypeOutline.type TypeOutline.signature
    rw [List.map_map, List.map_map]
    rfl
  have hspelled := congrArg (List.map fun sig : Name × List Name =>
    (keyOn engine sig.1, sig.2.map fun c => c.on engine)) schema.outlines_fits
  rw [List.map_map, List.map_map] at hspelled
  unfold Schema.ReadInto domainOf
  rw [List.map_map]
  refine (List.map_congr_left fun t _ => hview t).trans (hspelled.trans ?_)
  refine List.map_congr_left fun t _ => ?_
  rw [Function.comp_apply, List.map_map]
  rfl

/-- Either engine reads a portable schema, and what they read corresponds type by type and field by
field. The types that hold the users correspond as well. -/
theorem tables_agree (schema : Schema) (settings : Settings) (executed : List String)
    (start : Domain) :
    ∃ p q : Domain,
      (run (inspectTypes (schema.snapshot .postgres).catalog (customary settings)) executed
        start).result = .ok p ∧
      (run (inspectTypes (schema.snapshot .sqlServer).catalog (customary settings)) executed
        start).result = .ok q ∧
      List.Forall₂ TypeTwins p.types q.types ∧
      Option.Rel TypeTwins p.userType? q.userType? ∧
      schema.ReadInto .postgres p ∧ schema.ReadInto .sqlServer q := by
  have hstage : ∀ engine, (run (inspectTypes (schema.snapshot engine).catalog (customary settings))
      executed start).result = .ok (domainOf engine (customary settings) schema.outlines) := by
    intro engine
    rw [Offline.inspectTypes_eq_ok]
    exact typeStage_stored ⟨rfl, rfl⟩ rfl start
  refine ⟨_, _, hstage .postgres, hstage .sqlServer, ?_, ?_, readInto_outlines schema _ _,
    readInto_outlines schema _ _⟩
  · exact forall₂_views TypeOutline.twins schema.outlines
  · exact rel_find?_views (fun t => t.twins.isSecurityPrincipal) TypeOutline.twins schema.outlines

/-! ## A schema with references -/

namespace Sales

/-- The word `buyer`. -/
def buyer : Word := ⟨"buyer".toList, by decide, by decide, by decide⟩

/-- The word `sale`. -/
def sale : Word := ⟨"sale".toList, by decide, by decide, by decide⟩

/-- The word `number`. -/
def number : Word := ⟨"number".toList, by decide, by decide, by decide⟩

/-- A primary key of one column. -/
def primary (column : Name) : Key := ⟨fun _ => "pk", .primary, [column]⟩

/-- The foreign key of sales. Each engine has its own name for it. -/
def boughtBy : ForeignKey where
  name
    | .postgres => "sale_buyer_number_fkey"
    | .sqlServer => "FK_Sale_Buyer"
  column := [buyer, number]
  table := [buyer]
  target := [number]

/-- Buyers. -/
def buyers : Table where
  name := [buyer]
  description := none
  columns := [⟨[number], .bigint, none, none, none, false, true, false, none⟩]
  keys := [primary [number]]
  foreignKeys := []
  separated := by decide
  keyColumns := by decide
  foreignColumns := nofun

/-- Sales, each to a buyer. -/
def sales : Table where
  name := [sale]
  description := none
  columns :=
    [⟨[sale, number], .integer, none, none, none, false, true, false, none⟩,
     ⟨[buyer, number], .bigint, none, none, none, false, false, false, none⟩]
  keys := [primary [sale, number]]
  foreignKeys := [boughtBy]
  separated := by decide
  keyColumns := by decide
  foreignColumns := by decide

end Sales

/-- Sales stand in front of the buyers that they point at. -/
def bookings : Schema where
  tables := [Sales.sales, Sales.buyers]
  separated := by decide
  targets := by
    intro t ht k hk
    rcases List.mem_pair.1 ht with rfl | rfl
    · cases List.mem_singleton.1 hk
      exact ⟨Sales.buyers, rfl, List.mem_singleton_self _⟩
    · cases hk

/-- Names of fields with where they point. -/
def ends (d : Domain) : List (String × Option FieldReference) :=
  d.types.flatMap fun t => t.fields.map fun f => (f.name, f.references)

/-- Both engines read the tables, and the key of a buyer is what a sale points at in either. -/
theorem tables_agree_bookings :
    ∃ p q : Domain,
      (run (inspectTypes (bookings.snapshot .postgres).catalog (customary .standard)) []
        default).result = .ok p ∧
      (run (inspectTypes (bookings.snapshot .sqlServer).catalog (customary .standard)) []
        default).result = .ok q ∧
      List.Forall₂ TypeTwins p.types q.types ∧ p.types.length = 2 ∧
      ends p = [("sale_number", none),
        ("buyer_number", some ⟨⟨"public", "buyer"⟩, "number"⟩), ("number", none)] ∧
      ends q = [("SaleNumber", none),
        ("BuyerNumber", some ⟨⟨"dbo", "Buyer"⟩, "Number"⟩), ("Number", none)] ∧
      p.types.map (fun t => t.keyFields.map Field.name) = [["sale_number"], ["number"]] := by
  obtain ⟨p, q, hp, hq, htwins, _, hread, _⟩ := tables_agree bookings .standard [] default
  obtain ⟨p', hp', hends, hkeys⟩ :
      ∃ d, (run (inspectTypes (bookings.snapshot .postgres).catalog (customary .standard)) []
          default).result = .ok d ∧
        ends d = [("sale_number", none),
          ("buyer_number", some ⟨⟨"public", "buyer"⟩, "number"⟩), ("number", none)] ∧
        d.types.map (fun t => t.keyFields.map Field.name) = [["sale_number"], ["number"]] := by
    decide +kernel
  obtain ⟨q', hq', hends'⟩ :
      ∃ d, (run (inspectTypes (bookings.snapshot .sqlServer).catalog (customary .standard)) []
          default).result = .ok d ∧
        ends d = [("SaleNumber", none),
          ("BuyerNumber", some ⟨⟨"dbo", "Buyer"⟩, "Number"⟩), ("Number", none)] := by
    decide +kernel
  cases hp.symm.trans hp'
  cases hq.symm.trans hq'
  have hlength := congrArg List.length hread
  rw [List.length_map, List.length_map] at hlength
  exact ⟨p, q, hp, hq, htwins, hlength, hends, hends', hkeys⟩

end SchemaModel.Portable
