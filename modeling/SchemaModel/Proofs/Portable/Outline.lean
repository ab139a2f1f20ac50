import SchemaModel.Proofs.Inspection.Offline
import SchemaModel.Proofs.Portable.Schema

/-!
# `SchemaModel.Proofs.Portable.Outline` — reading a portable schema without an engine

What the tables of a portable schema come to can be told in words alone. An outline is a type whose
names are words and whose columns have shared types; in each engine it stands for one type. The
passes over a table are repeated here on outlines, where names are compared word by word, and each
is shown to be what the engine's own pass does to what the outlines stand for.

## Contents
- `FieldOutline`, `TypeOutline`: fields and types by words; `field` and `type` are what they stand
  for in an engine.
- **Fields.** `changeField` changes the first field of a name; `setFlags` and `markKey` are the
  changes that flags and primary keys make.
- **Tables.** `TypeOutline.addKey` adds a key constraint; `Table.outline` is a table with its flags
  and keys.
-/

namespace SchemaModel.Portable

open Inspection

/-! ## Outlines -/

/-- A field by its words. The field that it points at is given by the words of its table and its own
ones. -/
structure FieldOutline where
  name : Name
  order : Int
  type : SharedType
  isRequired : Bool
  size : Option Int
  precision : Option Int
  scale : Option Int
  isKey : Bool
  isGenerated : Bool
  isComputed : Bool
  references : Option (Name × Name)
  attributes : Option Attributes

/-- A type by its words. -/
structure TypeOutline where
  name : Name
  fields : List FieldOutline
  keys : List Key
  attributes : Option Attributes

/-- The key of the table with a name. -/
def keyOn (engine : Engine) (name : Name) : TypeKey := ⟨engine.defaultNamespace, name.on engine⟩

/-- Tables of one schema are compared by their names. -/
theorem keysEqual_keyOn (engine : Engine) (a b : Name) :
    engine.keysEqual (keyOn engine a) (keyOn engine b) =
      engine.namesEqual (a.on engine) (b.on engine) := by
  have hschema : engine.namesEqual engine.defaultNamespace engine.defaultNamespace = true :=
    engine.namesEqual_refl _
  unfold Engine.keysEqual keyOn
  rw [hschema, Bool.true_and]

/-- The field that an outline stands for in an engine. -/
def FieldOutline.field (engine : Engine) (f : FieldOutline) : Field where
  name := f.name.on engine
  order := f.order
  nativeType := f.type.native engine
  valueType := some ((ValueType.of f.type.kind).withNullability !f.isRequired)
  isRequired := f.isRequired
  size := f.size
  precision := f.precision
  scale := f.scale
  isKey := f.isKey
  isGenerated := f.isGenerated
  isComputed := f.isComputed
  defaultValue := none
  references := f.references.map fun (table, column) => ⟨keyOn engine table, column.on engine⟩
  attributes := f.attributes

/-- The constraint that a key stands for in an engine. -/
def Key.constraint (engine : Engine) (k : Key) : Constraint :=
  ⟨k.name engine, k.kind, k.columns.map fun c => c.on engine⟩

/-- The type that an outline stands for in an engine. -/
def TypeOutline.type (engine : Engine) (t : TypeOutline) : ApplicationType where
  name := t.name.on engine
  schema := engine.defaultNamespace
  fields := t.fields.map (FieldOutline.field engine)
  constraints := t.keys.map (Key.constraint engine)
  attributes := t.attributes

/-- The overrides in a comment. -/
def overridesIn (comment : Option String) : Option Attributes := (Attributes.parse comment "").1

/-- Whose comment it is matters for warnings alone. -/
theorem parse_fst (comment : Option String) (owner : String) :
    (Attributes.parse comment owner).1 = overridesIn comment := by
  unfold overridesIn Attributes.parse
  cases comment with
  | none => rfl
  | some text =>
      dsimp only
      split
      · split <;> rfl
      · rfl

/-! ## Fields -/

variable {engine : Engine} {fs : List FieldOutline}

/-- The fields with the first one of a name changed. -/
def changeField (name : Name) (change : FieldOutline → FieldOutline) (fs : List FieldOutline) :
    List FieldOutline :=
  modifyFirst (fun f => decide (f.name = name)) change fs

/-- Either engine finds a field under the spelling of its name. -/
theorem namesEqual_field (hsep : Separated (fs.map FieldOutline.name)) {name : Name}
    (hname : name ∈ fs.map FieldOutline.name) :
    ∀ f ∈ fs, engine.namesEqual (f.field engine).name (name.on engine) = decide (f.name = name) :=
  fun _ hf => namesEqual_on hsep engine (List.mem_map_of_mem hf) hname

theorem findField?_outline (engine : Engine) (hsep : Separated (fs.map FieldOutline.name))
    {name : Name} (hname : name ∈ fs.map FieldOutline.name) :
    ∃ f, f ∈ fs ∧ f.name = name ∧
      findField? engine (fs.map (FieldOutline.field engine)) (name.on engine) =
        some (f.field engine) := by
  unfold findField?
  rw [find?_map_of_mem (namesEqual_field hsep hname)]
  cases hfind : fs.find? fun f => decide (f.name = name) with
  | none =>
      obtain ⟨f, hf, hfname⟩ := List.mem_map.1 hname
      rw [List.find?_eq_none] at hfind
      exact absurd (decide_eq_true hfname) (hfind f hf)
  | some f =>
      have hfname := List.find?_some hfind
      exact ⟨f, List.mem_of_find?_eq_some hfind, of_decide_eq_true hfname, rfl⟩

theorem modifyField_outline (hsep : Separated (fs.map FieldOutline.name)) {name : Name}
    (hname : name ∈ fs.map FieldOutline.name) {change : FieldOutline → FieldOutline}
    {change' : Field → Field} (hchange : ∀ f, change' (f.field engine) = (change f).field engine) :
    modifyField engine (fs.map (FieldOutline.field engine)) (name.on engine) change' =
      (changeField name change fs).map (FieldOutline.field engine) :=
  modifyFirst_map (namesEqual_field hsep hname) fun f _ _ => hchange f

theorem changeField_names {name : Name} {change : FieldOutline → FieldOutline}
    (h : ∀ f, (change f).name = f.name) :
    (changeField name change fs).map FieldOutline.name = fs.map FieldOutline.name :=
  map_modifyFirst _ _ _ h fs

/-! ### From columns -/

/-- The field of a column at a place, nullable until more is known. -/
def Column.outline (order : Int) (c : Column) : FieldOutline where
  name := c.name
  order := order
  type := c.type
  isRequired := false
  size := c.size
  precision := c.precision
  scale := c.scale
  isKey := false
  isGenerated := false
  isComputed := false
  references := none
  attributes := overridesIn c.description

/-- The fields of columns counted from a number on. -/
def columnOutlines (order : Int) : List Column → List FieldOutline
  | [] => []
  | c :: rest => c.outline order :: columnOutlines (order + 1) rest

theorem columnOutlines_names (order : Int) (columns : List Column) :
    (columnOutlines order columns).map FieldOutline.name = columns.map Column.name := by
  induction columns generalizing order with
  | nil => rfl
  | cons c rest ih =>
      unfold columnOutlines
      rw [List.map_cons, List.map_cons, ih]
      rfl

theorem columnFields_stored (table : String) (order : Int) (columns : List Column) :
    (columnFields engine table
        (StoredTable.columnRowsFrom order (columns.map (Column.stored engine)))).1 =
      (columnOutlines order columns).map (FieldOutline.field engine) := by
  induction columns generalizing order with
  | nil => rfl
  | cons c rest ih =>
      have hfirst : (columnField engine table
          (StoredTable.columnRow order (c.stored engine))).1 = (c.outline order).field engine := by
        unfold columnField
        dsimp only [StoredTable.columnRow, Column.stored]
        rw [c.type.valueType?_native engine, parse_fst]
        rfl
      rw [List.map_cons]
      unfold columnOutlines
      rw [List.map_cons, ← hfirst, ← ih (order + 1)]
      rfl

/-! ### Flags and keys -/

/-- What is known about the values of a column, put on a field. -/
def Column.flagged (c : Column) (f : FieldOutline) : FieldOutline :=
  { f with
    isRequired := !c.isNullable
    isComputed := c.isComputed
    isGenerated := c.isIdentity }

/-- Puts what is known about the values of a column on its field. -/
def setFlags (fs : List FieldOutline) (c : Column) : List FieldOutline :=
  changeField c.name c.flagged fs

/-- Marks the field of a name as key. -/
def markKey (fs : List FieldOutline) (name : Name) : List FieldOutline :=
  changeField name (fun f => { f with isKey := true }) fs

theorem setFlags_names (c : Column) :
    (setFlags fs c).map FieldOutline.name = fs.map FieldOutline.name :=
  changeField_names fun _ => rfl

theorem markKey_names (name : Name) :
    (markKey fs name).map FieldOutline.name = fs.map FieldOutline.name :=
  changeField_names fun _ => rfl

/-- Nullability is set anew, whatever it was before. -/
theorem withNullability_of (kind : ValueKind) (a b : Bool) :
    ((ValueType.of kind).withNullability a).withNullability b =
      (ValueType.of kind).withNullability b := by
  cases kind <;> cases a <;> cases b <;> rfl

theorem withFlags_outline (c : Column) (f : FieldOutline) :
    withFlags engine (StoredTable.flagsRow (c.stored engine)) (f.field engine) =
      (c.flagged f).field engine := by
  unfold withFlags Field.setRequired
  dsimp only [StoredTable.flagsRow, Column.stored, FieldOutline.field, Column.flagged]
  rw [Option.map_some, withNullability_of, Option.any_none, Bool.or_false]

theorem applyFlags_outline (table : String) (columns : List Column)
    (hsep : Separated (fs.map FieldOutline.name))
    (hcolumns : ∀ c ∈ columns, c.name ∈ fs.map FieldOutline.name) :
    (applyFlags engine table (fs.map (FieldOutline.field engine))
        ((columns.map (Column.stored engine)).map StoredTable.flagsRow)).1 =
      (columns.foldl setFlags fs).map (FieldOutline.field engine) := by
  induction columns generalizing fs with
  | nil => rfl
  | cons c rest ih =>
      have hname := hcolumns c List.mem_cons_self
      obtain ⟨f, _, _, hfound⟩ := findField?_outline engine hsep hname
      have hfind : findField? engine (fs.map (FieldOutline.field engine))
          (StoredTable.flagsRow (c.stored engine)).name = some (f.field engine) := hfound
      have hstep : modifyField engine (fs.map (FieldOutline.field engine)) (c.name.on engine)
          (withFlags engine (StoredTable.flagsRow (c.stored engine))) =
            (setFlags fs c).map (FieldOutline.field engine) :=
        modifyField_outline hsep hname (withFlags_outline c)
      have hrest : ∀ d ∈ rest, d.name ∈ (setFlags fs c).map FieldOutline.name := by
        rw [setFlags_names]
        intro d hd
        exact hcolumns d (List.mem_cons_of_mem c hd)
      have hsep' : Separated ((setFlags fs c).map FieldOutline.name) := by
        rw [setFlags_names]
        exact hsep
      rw [List.map_cons, List.map_cons, List.foldl_cons, ← ih hsep' hrest, ← hstep]
      conv => lhs; unfold applyFlags
      rw [hfind]
      rfl

theorem foldl_setFlags_names (columns : List Column) :
    (columns.foldl setFlags fs).map FieldOutline.name = fs.map FieldOutline.name := by
  induction columns generalizing fs with
  | nil => rfl
  | cons c rest ih => rw [List.foldl_cons, ih, setFlags_names]

theorem foldl_markKey_names (names : List Name) :
    (names.foldl markKey fs).map FieldOutline.name = fs.map FieldOutline.name := by
  induction names generalizing fs with
  | nil => rfl
  | cons name rest ih => rw [List.foldl_cons, ih, markKey_names]

theorem markKeys_outline (engine : Engine) (hsep : Separated (fs.map FieldOutline.name))
    {names : List Name} (hnames : ∀ name ∈ names, name ∈ fs.map FieldOutline.name) :
    markKeys engine (fs.map (FieldOutline.field engine)) (names.map fun name => name.on engine) =
      (names.foldl markKey fs).map (FieldOutline.field engine) := by
  unfold markKeys
  induction names generalizing fs with
  | nil => rfl
  | cons name rest ih =>
      have hstep : modifyField engine (fs.map (FieldOutline.field engine)) (name.on engine)
          (fun f => { f with isKey := true }) = (markKey fs name).map (FieldOutline.field engine) :=
        modifyField_outline hsep (hnames name List.mem_cons_self) fun _ => rfl
      rw [List.map_cons, List.foldl_cons, List.foldl_cons, hstep]
      apply ih
      · rw [markKey_names]
        exact hsep
      · rw [markKey_names]
        intro other hother
        exact hnames other (List.mem_cons_of_mem name hother)

theorem constraintNames_outline (engine : Engine) (table constraint : String)
    (hsep : Separated (fs.map FieldOutline.name)) {names : List Name}
    (hnames : ∀ name ∈ names, name ∈ fs.map FieldOutline.name) :
    constraintNames engine table constraint (fs.map (FieldOutline.field engine))
      (names.map fun name => name.on engine) = .ok (names.map fun name => name.on engine) := by
  induction names with
  | nil => rfl
  | cons name rest ih =>
      obtain ⟨f, _, hfname, hfind⟩ := findField?_outline engine hsep
        (hnames name List.mem_cons_self)
      have hsame : (f.field engine).name = name.on engine := by
        rw [← hfname]
        rfl
      rw [List.map_cons]
      unfold constraintNames
      rw [hfind, ih fun other hother => hnames other (List.mem_cons_of_mem name hother)]
      dsimp only
      rw [hsame]
      rfl

/-! ## Tables -/

/-- Adds a key to a type. -/
def TypeOutline.addKey (t : TypeOutline) (k : Key) : TypeOutline :=
  { t with
    fields := if k.kind = .primary then k.columns.foldl markKey t.fields else t.fields
    keys := t.keys ++ [k] }

theorem TypeOutline.addKey_names (t : TypeOutline) (k : Key) :
    (t.addKey k).fields.map FieldOutline.name = t.fields.map FieldOutline.name := by
  unfold addKey
  dsimp only
  split
  · exact foldl_markKey_names _
  · rfl

theorem TypeOutline.foldl_addKey_names (t : TypeOutline) (ks : List Key) :
    (ks.foldl addKey t).fields.map FieldOutline.name = t.fields.map FieldOutline.name := by
  induction ks generalizing t with
  | nil => rfl
  | cons k rest ih => rw [List.foldl_cons, ih, addKey_names]

theorem TypeOutline.foldl_addKey_name (t : TypeOutline) (ks : List Key) :
    (ks.foldl addKey t).name = t.name := by
  induction ks generalizing t with
  | nil => rfl
  | cons k rest ih => exact ih (t.addKey k)

theorem applyConstraint_outline (table : String) {t : TypeOutline} {k : Key}
    (hsep : Separated (t.fields.map FieldOutline.name))
    (hcolumns : ∀ c ∈ k.columns, c ∈ t.fields.map FieldOutline.name) :
    applyConstraint engine table (t.type engine) (k.row engine) =
      .ok ((t.addKey k).type engine) := by
  have hnames := constraintNames_outline engine table (k.name engine) hsep hcolumns
  have hmarked := markKeys_outline engine hsep hcolumns
  unfold applyConstraint
  dsimp only [TypeOutline.type, Key.row]
  rw [hnames, hmarked]
  unfold TypeOutline.addKey
  dsimp only
  rw [List.map_append, apply_ite (List.map (FieldOutline.field engine))]
  rfl

theorem applyConstraints_outline (table : String) {t : TypeOutline} {ks : List Key}
    (hsep : Separated (t.fields.map FieldOutline.name))
    (hcolumns : ∀ k ∈ ks, ∀ c ∈ k.columns, c ∈ t.fields.map FieldOutline.name) :
    applyConstraints engine table (t.type engine) (ks.map (Key.row engine)) =
      .ok ((ks.foldl TypeOutline.addKey t).type engine) := by
  induction ks generalizing t with
  | nil => rfl
  | cons k rest ih =>
      rw [List.map_cons]
      unfold applyConstraints
      rw [applyConstraint_outline table hsep (hcolumns k List.mem_cons_self)]
      dsimp only
      rw [List.foldl_cons]
      apply ih
      · rw [TypeOutline.addKey_names]
        exact hsep
      · rw [TypeOutline.addKey_names]
        intro other hother
        exact hcolumns other (List.mem_cons_of_mem k hother)

/-- A table with its flags and keys, not yet pointing at others, under a comment. -/
def Table.outline (t : Table) (comment : Option String) : TypeOutline :=
  t.keys.foldl TypeOutline.addKey
    ⟨t.name, t.columns.foldl setFlags (columnOutlines 1 t.columns), [], overridesIn comment⟩

theorem Table.outline_name (t : Table) (comment : Option String) :
    (t.outline comment).name = t.name :=
  TypeOutline.foldl_addKey_name _ _

/-- The names of columns after their flags are those of the columns. -/
theorem Table.flagged_names (t : Table) :
    (t.columns.foldl setFlags (columnOutlines 1 t.columns)).map FieldOutline.name =
      t.columns.map Column.name := by
  rw [foldl_setFlags_names, columnOutlines_names]

theorem Table.outline_names (t : Table) (comment : Option String) :
    (t.outline comment).fields.map FieldOutline.name = t.columns.map Column.name := by
  unfold Table.outline
  rw [TypeOutline.foldl_addKey_names]
  exact t.flagged_names

/-- The three passes over a table, on the rows that are written down for an engine. -/
theorem Table.outline_stored (t : Table) (comment : Option String) (table : String) :
    applyConstraints engine table
        ⟨t.name.on engine, engine.defaultNamespace,
          (applyFlags engine table
            (columnFields engine table (t.stored engine).columnRows).1
            (t.stored engine).flagsRows).1, [], overridesIn comment⟩
        (t.stored engine).constraints =
      .ok ((t.outline comment).type engine) := by
  have hflags : (applyFlags engine table
      (columnFields engine table (t.stored engine).columnRows).1 (t.stored engine).flagsRows).1 =
        (t.columns.foldl setFlags (columnOutlines 1 t.columns)).map
          (FieldOutline.field engine) := by
    unfold StoredTable.columnRows StoredTable.flagsRows
    dsimp only [Table.stored]
    rw [columnFields_stored, applyFlags_outline]
    · rw [columnOutlines_names]
      exact t.separated
    · rw [columnOutlines_names]
      intro c hc
      exact List.mem_map_of_mem hc
  rw [hflags]
  refine applyConstraints_outline (t := ⟨t.name, _, [], overridesIn comment⟩) table ?_ ?_
  · rw [t.flagged_names]
    exact t.separated
  · rw [t.flagged_names]
    exact t.keyColumns

end SchemaModel.Portable
