import SchemaModel.Proofs.Inspection.Reordering

/-!
# `SchemaModel.Proofs.Inspection.TableFields` — what a type takes over from its table

A field comes about in several passes over the rows of its table: its column, the flags, the keys
that list it, the foreign keys that start from it. Each pass finds the field again by its name.
Where the columns of a table have distinct names, a pass changes every field by the rows that name
it, so what becomes of a field can be read off its column and its table's keys.

## Contents
- **Changes by name.** `changed` is a field after the rows that name it; `foldl_modifyField` says
  that a pass over distinct fields is that. `changed_of_mem`, `changed_mark` and `changed_point`
  compute it for the flags, the keys and the foreign keys.
- **Key constraints.** `Constraint.Resolves`: a constraint has literal field names for the columns
  that a row lists. `applyConstraints_ok`: adding constraints resolves every one of them.
- `Field.ReadsColumn`, `ApplicationType.Mirrors`: what a field takes over from its column, and a
  type from its table. `tableType_fields`: the fields of a loaded table, one for each column.
- **References.** `Domain.referenceOf` is what the last foreign key of a column says.
- `types_mirror_tables`: the types of a domain mirror the tables outside the excluded schemas.
-/

namespace SchemaModel

open Inspection

/-! ## Tables as they are written down -/

namespace CatalogSnapshot

variable {s : CatalogSnapshot}

/-- No table has two columns of one name. -/
def DistinctColumns (s : CatalogSnapshot) : Prop :=
  ∀ t ∈ s.tables, t.columns.Pairwise fun a b => s.engine.namesEqual a.name b.name = false

instance : Decidable s.DistinctColumns := inferInstanceAs (Decidable (∀ t ∈ s.tables, _))

theorem mem_included {excluded : List String} {t : StoredTable} (h : t ∈ s.included excluded) :
    t ∈ s.tables := (List.mem_filter.1 h).1

/-- Among tables with distinct keys, the one that goes by a key is found under it. -/
theorem find?_key (hdistinct : s.DistinctTables) {tables : List StoredTable}
    (hstored : ∀ t ∈ tables, t ∈ s.tables) {t : StoredTable} (ht : t ∈ tables) {key : TypeKey}
    (hkey : s.engine.keysEqual t.row.key key = true) :
    tables.find? (fun u => s.engine.keysEqual u.row.key key) = some t := by
  refine find?_of_unique ht hkey fun u hu hukey => ?_
  exact eq_of_keysEqual hdistinct (hstored u hu) (hstored t ht) hukey hkey

/-- Each of several tables with distinct keys is found by its own row. -/
theorem table?_row (hdistinct : s.DistinctTables) {t : StoredTable} (ht : t ∈ s.tables) :
    s.table? t.row = some t :=
  find?_key hdistinct (fun _ h => h) ht (s.engine.keysEqual_refl _)

theorem ofTable_row (hdistinct : s.DistinctTables) {t : StoredTable} (ht : t ∈ s.tables)
    {α : Type} (part : StoredTable → List α) : s.ofTable t.row part = part t := by
  unfold ofTable
  rw [table?_row hdistinct ht]

end CatalogSnapshot

namespace StoredTable

theorem columnRowsFrom_eq (columns : List StoredColumn) (n : Nat) :
    columnRowsFrom n columns = (columns.zipIdx n).map fun p => columnRow p.2 p.1 := by
  induction columns generalizing n with
  | nil => rfl
  | cons c rest ih =>
      rw [List.zipIdx_cons, List.map_cons, ← ih (n + 1)]
      rfl

theorem columnRows_eq (t : StoredTable) :
    t.columnRows = (t.columns.zipIdx 1).map fun p => columnRow p.2 p.1 := columnRowsFrom_eq _ 1

/-- Some primary key of the table lists the column. -/
def isKeyColumn (engine : Engine) (t : StoredTable) (c : StoredColumn) : Bool :=
  t.constraints.any fun k => k.kind == .primary && k.columns.any (engine.namesEqual c.name)

/-- The columns that primary keys of the table list. -/
def keyColumns (engine : Engine) (t : StoredTable) : List StoredColumn :=
  t.columns.filter (t.isKeyColumn engine)

end StoredTable

/-! ## Changes by name -/

namespace Offline

variable {engine : Engine} {fields : List Field} {α : Type}

/-- No two fields go by one name. -/
def DistinctFields (engine : Engine) (fields : List Field) : Prop :=
  (fields.map Field.name).Pairwise fun a b => engine.namesEqual a b = false

theorem modifyField_eq_map (h : DistinctFields engine fields) (name : String)
    (change : Field → Field) :
    modifyField engine fields name change =
      fields.map fun f => if engine.namesEqual f.name name then change f else f := by
  refine modifyFirst_eq_map ((List.pairwise_map.1 h).imp fun {a b} hab ha => ?_)
  by_contra hb
  have hsame := engine.namesEqual_trans ha
    (engine.namesEqual_comm b.name name ▸ Bool.of_not_eq_false hb)
  rw [hab] at hsame
  cases hsame

/-- The field after the changes by those rows that name it. -/
def changed (engine : Engine) (name : α → String) (change : α → Field → Field) (rows : List α)
    (f : Field) : Field :=
  rows.foldl (fun f row => if engine.namesEqual f.name (name row) then change row f else f) f

section Changed

variable (name : α → String) (change : α → Field → Field)

theorem changed_cons (row : α) (rest : List α) (f : Field) :
    changed engine name change (row :: rest) f =
      changed engine name change rest
        (if engine.namesEqual f.name (name row) then change row f else f) := rfl

/-- Changing the first field of each row's name changes every field by the rows of its name. -/
theorem foldl_modifyField (hname : ∀ row f, (change row f).name = f.name)
    (h : DistinctFields engine fields) (rows : List α) :
    rows.foldl (fun fields row => modifyField engine fields (name row) (change row)) fields =
      fields.map (changed engine name change rows) := by
  induction rows generalizing fields with
  | nil => exact (List.map_id fields).symm
  | cons row rest ih =>
      -- The rest looks among changed fields, which still have their names.
      have hnames : DistinctFields engine (modifyField engine fields (name row) (change row)) := by
        unfold DistinctFields
        rw [modifyField_names (hname row)]
        exact h
      rw [List.foldl_cons, ih hnames, modifyField_eq_map h, List.map_map]
      rfl

theorem changed_of_forall {rows : List α} {f : Field}
    (h : ∀ row ∈ rows, engine.namesEqual f.name (name row) = false) :
    changed engine name change rows f = f := by
  induction rows with
  | nil => rfl
  | cons row rest ih =>
      rw [List.forall_mem_cons] at h
      rw [changed_cons, if_neg (Bool.eq_false_iff.1 h.1)]
      exact ih h.2

/-- A field is changed by the only row of its name. -/
theorem changed_of_mem (hname : ∀ row f, (change row f).name = f.name) {rows : List α}
    (h : rows.Pairwise fun a b => engine.namesEqual (name a) (name b) = false) {row : α}
    (hrow : row ∈ rows) {f : Field} (hf : f.name = name row) :
    changed engine name change rows f = change row f := by
  induction rows with
  | nil => cases hrow
  | cons first rest ih =>
      obtain ⟨hfirst, hrest⟩ := List.pairwise_cons.1 h
      rw [changed_cons]
      -- Either the first row names the field and no later one does, or a later row does.
      rcases List.mem_cons.1 hrow with rfl | hmem
      · have hown : engine.namesEqual f.name (name row) = true :=
          hf ▸ engine.namesEqual_refl (name row)
        rw [if_pos hown]
        refine changed_of_forall name change fun other hother => ?_
        rw [hname, hf]
        exact hfirst other hother
      · have hother : engine.namesEqual f.name (name first) = false := by
          rw [hf, engine.namesEqual_comm]
          exact hfirst row hmem
        rw [if_neg (Bool.eq_false_iff.1 hother)]
        exact ih hrest hmem

end Changed

/-- A field is marked when some column of the list names it. -/
theorem changed_mark (columns : List String) (f : Field) :
    changed engine id (fun _ f => { f with isKey := true }) columns f =
      { f with isKey := f.isKey || columns.any (engine.namesEqual f.name) } := by
  induction columns generalizing f with
  | nil =>
      rw [List.any_nil, Bool.or_false]
      rfl
  | cons column rest ih =>
      simp only [changed_cons, List.any_cons, id_eq]
      by_cases hcolumn : engine.namesEqual f.name column
      · rw [if_pos hcolumn, ih, hcolumn, Bool.true_or, Bool.or_true]
      · rw [if_neg hcolumn, ih, Bool.eq_false_iff.2 hcolumn, Bool.false_or]

theorem markKeys_eq_map (h : DistinctFields engine fields) (columns : List String) :
    markKeys engine fields columns =
      fields.map fun f =>
        { f with isKey := f.isKey || columns.any (engine.namesEqual f.name) } := by
  have hpass := foldl_modifyField id (fun _ f => { f with isKey := true }) (fun _ _ => rfl) h
    columns
  exact hpass.trans (List.map_congr_left fun f _ => changed_mark columns f)

/-- Rows for unknown columns change nothing. -/
theorem applyFlags_fst (table : String) (fields : List Field) (rows : List ColumnFlagsRow) :
    (applyFlags engine table fields rows).1 =
      rows.foldl (fun fields row => modifyField engine fields row.name (withFlags engine row))
        fields := by
  induction rows generalizing fields with
  | nil => rfl
  | cons row rest ih =>
      unfold applyFlags
      cases hfind : findField? engine fields row.name with
      | none =>
          have hsame : modifyField engine fields row.name (withFlags engine row) = fields :=
            modifyFirst_of_find?_none hfind
          rw [List.foldl_cons, hsame]
          exact ih fields
      | some f => exact ih _

theorem applyFlags_names (table : String) (fields : List Field) (rows : List ColumnFlagsRow) :
    (applyFlags engine table fields rows).1.map Field.name = fields.map Field.name := by
  rw [applyFlags_fst]
  induction rows generalizing fields with
  | nil => rfl
  | cons row rest ih =>
      rw [List.foldl_cons, ih]
      exact modifyField_names fun _ => rfl

end Offline

/-! ## Key constraints -/

/-- The constraint that a row describes: it has its name and its kind, and for each column that the
row lists the name of a field that the engine takes for it. -/
structure Constraint.Resolves (engine : Engine) (names : List String) (row : KeyConstraintRow)
    (c : Constraint) : Prop where
  name : c.name = row.name
  kind : c.kind = row.kind
  fields : List.Forall₂ (fun column name => name ∈ names ∧ engine.namesEqual name column = true)
    row.columns c.fields

namespace Offline

variable {engine : Engine} {fields : List Field} {table : String} {t t' : ApplicationType}

theorem constraintNames_ok {label : String} {columns names : List String}
    (h : constraintNames engine table label fields columns = .ok names) :
    List.Forall₂ (fun column name =>
      name ∈ fields.map Field.name ∧ engine.namesEqual name column = true) columns names := by
  induction columns generalizing names with
  | nil =>
      cases h
      exact .nil
  | cons column rest ih =>
      unfold constraintNames at h
      cases hfind : findField? engine fields column with
      | none =>
          simp only [hfind] at h
          cases h
      | some f =>
          simp only [hfind] at h
          cases hrest : constraintNames engine table label fields rest with
          | error e =>
              rw [hrest] at h
              cases h
          | ok more =>
              rw [hrest] at h
              cases h
              have hnamed : engine.namesEqual f.name column = true :=
                List.find?_some (p := fun f : Field => engine.namesEqual f.name column) hfind
              exact .cons ⟨List.mem_map_of_mem (List.mem_of_find?_eq_some hfind), hnamed⟩ (ih hrest)

/-- The columns that the primary ones among key constraints list. -/
def primaryColumns (rows : List KeyConstraintRow) : List String :=
  rows.flatMap fun row => if row.kind = .primary then row.columns else []

theorem markKeys_append (fields : List Field) (columns more : List String) :
    markKeys engine fields (columns ++ more) =
      markKeys engine (markKeys engine fields columns) more :=
  List.foldl_append

theorem applyConstraint_ok {row : KeyConstraintRow}
    (h : applyConstraint engine table t row = .ok t') :
    t'.fields = markKeys engine t.fields (if row.kind = .primary then row.columns else []) ∧
      ∃ c, t'.constraints = t.constraints ++ [c] ∧
        c.Resolves engine (t.fields.map Field.name) row := by
  unfold applyConstraint at h
  cases hnames : constraintNames engine table row.name t.fields row.columns with
  | error e =>
      rw [hnames] at h
      cases h
  | ok names =>
      rw [hnames] at h
      cases h
      refine ⟨?_, _, rfl, rfl, rfl, constraintNames_ok hnames⟩
      by_cases hprimary : row.kind = .primary
      · simp only [if_pos hprimary]
      · simp only [if_neg hprimary]
        rfl

/-- Adding constraints resolves every one of them and marks what the primary ones list. -/
theorem applyConstraints_ok {rows : List KeyConstraintRow}
    (h : applyConstraints engine table t rows = .ok t') :
    t'.fields = markKeys engine t.fields (primaryColumns rows) ∧
      ∃ added, t'.constraints = t.constraints ++ added ∧
        List.Forall₂ (Constraint.Resolves engine (t.fields.map Field.name)) rows added := by
  induction rows generalizing t with
  | nil =>
      cases h
      exact ⟨rfl, [], (List.append_nil _).symm, .nil⟩
  | cons row rest ih =>
      unfold applyConstraints at h
      cases hfirst : applyConstraint engine table t row with
      | error e =>
          simp only [hfirst] at h
          cases h
      | ok t₁ =>
          simp only [hfirst] at h
          obtain ⟨hfields, c, hc, hresolves⟩ := applyConstraint_ok hfirst
          obtain ⟨hmarked, added, hadded, hall⟩ := ih h
          -- Marking renames nothing: the other rows are resolved among the same names.
          have hnames : t₁.fields.map Field.name = t.fields.map Field.name := by
            rw [hfields]
            exact markKeys_names _ _ _
          rw [hnames] at hall
          refine ⟨?_, c :: added, ?_, .cons hresolves hall⟩
          · rw [hmarked, hfields, ← markKeys_append]
            rfl
          · rw [hadded, hc, List.append_assoc]
            rfl

end Offline

/-! ## Fields and their columns -/

/-- No native type is mapped to a nullable value type. -/
theorem Engine.valueType?_nullable {engine : Engine} {nativeType : String} {v : ValueType}
    (h : engine.valueType? nativeType = some v) : v.nullable = false := by
  unfold Engine.valueType? at h
  cases engine with
  | postgres =>
      unfold NativeType.postgres? at h
      dsimp only at h
      split at h
      all_goals
        obtain ⟨kind, _, rfl⟩ := Option.map_eq_some_iff.1 h
        rfl
  | sqlServer =>
      obtain ⟨kind, _, rfl⟩ := Option.map_eq_some_iff.1 h
      rfl

/-- Setting the nullability a second time leaves what the second time says. -/
theorem ValueType.withNullability_twice {v : ValueType} (hv : v.nullable = false)
    (first second : Bool) :
    (v.withNullability first).withNullability second =
      { v with nullable := second && v.kind.isValueType && !v.array } := by
  obtain ⟨kind, nullable, array⟩ := v
  cases hv
  cases first <;> cases second <;> cases array <;> cases hkind : kind.isValueType <;>
    simp [withNullability, nullableForm, nonNullable, hkind]

/-- The field reads the column, which stands at a place among those of a table: everything that the
column says of it, and whether a primary key of the table lists it. -/
structure Field.ReadsColumn (engine : Engine) (t : StoredTable) (ordinal : Nat) (c : StoredColumn)
    (f : Field) : Prop where
  name : f.name = c.name
  order : f.order = ordinal
  nativeType : f.nativeType = c.nativeType
  valueType : f.valueType = (engine.valueType? c.nativeType).map fun v =>
    { v with nullable := c.isNullable && v.kind.isValueType && !v.array }
  isRequired : f.isRequired = !c.isNullable
  size : f.size = c.size
  precision : f.precision = c.precision
  scale : f.scale = c.scale
  isKey : f.isKey = t.isKeyColumn engine c
  isGenerated : f.isGenerated = (c.isIdentity || c.defaultValue.any engine.isGeneratedDefault)
  isComputed : f.isComputed = c.isComputed
  defaultValue : f.defaultValue = c.defaultValue
  attributes :
    f.attributes = (Attributes.parse c.description (qualifiedText t.row.fullName c.name)).1

/-- The type mirrors the table: it has its key and its overrides, a field for each column, a
constraint for each key, and a single key field where primary keys list a single column. -/
structure ApplicationType.Mirrors (engine : Engine) (t : StoredTable) (ty : ApplicationType) :
    Prop where
  key : ty.key = t.row.key
  attributes : ty.attributes = (Attributes.parse t.description t.row.fullName).1
  fields : List.Forall₂ (fun p f => f.ReadsColumn engine t p.2 p.1) (t.columns.zipIdx 1) ty.fields
  constraints : List.Forall₂ (Constraint.Resolves engine (t.columns.map StoredColumn.name))
    t.constraints ty.constraints
  keyField : ∀ f, ty.keyField = .ok f ↔
    ∃ c, t.keyColumns engine = [c] ∧ f ∈ ty.fields ∧ f.name = c.name
  noKeyField : ty.keyField = Fault.setting (.noPrimaryKey ty.key.text) ↔ t.keyColumns engine = []
  severalKeyFields : ty.keyField = .error (.compositeKey ty.key.text) ↔
    2 ≤ (t.keyColumns engine).length

namespace Offline

variable {s : CatalogSnapshot} {settings : Settings} {d start : Domain} {engine : Engine}

/-- The field of a column with its flags. -/
def flaggedField (engine : Engine) (t : StoredTable) (c : StoredColumn) (ordinal : Nat) : Field :=
  withFlags engine (StoredTable.flagsRow c)
    (columnField engine t.row.fullName (StoredTable.columnRow ordinal c)).1

/-- The field of a column before its references are set. -/
def fieldOf (engine : Engine) (t : StoredTable) (c : StoredColumn) (ordinal : Nat) : Field :=
  { flaggedField engine t c ordinal with isKey := t.isKeyColumn engine c }

theorem columnField_attributes (table : String) (row : ColumnRow) :
    (columnField engine table row).1.attributes =
      (Attributes.parse row.description (qualifiedText table row.name)).1 := by
  unfold columnField
  dsimp only

theorem fieldOf_reads (t : StoredTable) (c : StoredColumn) (ordinal : Nat)
    (references : Option FieldReference) :
    ({ fieldOf engine t c ordinal with references := references } : Field).ReadsColumn engine t
      ordinal c := by
  constructor
  case valueType =>
    -- Nullability is set with the column and again with its flags.
    show ((((engine.valueType? c.nativeType).map _).map _ : Option ValueType)) = _
    rw [Option.map_map]
    refine Option.map_congr fun v hv => ?_
    show (v.withNullability !false).withNullability (!!c.isNullable) = _
    rw [Bool.not_not]
    exact ValueType.withNullability_twice (Engine.valueType?_nullable hv) _ _
  case attributes =>
    show (columnField engine t.row.fullName (StoredTable.columnRow ordinal c)).1.attributes = _
    rw [columnField_attributes]
    rfl
  all_goals rfl

theorem any_primaryColumns (rows : List KeyConstraintRow) (p : String → Bool) :
    (primaryColumns rows).any p = rows.any fun k => k.kind == .primary && k.columns.any p := by
  unfold primaryColumns
  rw [List.any_flatMap]
  congr 1
  funext row
  by_cases hprimary : row.kind = .primary
  · rw [if_pos hprimary, hprimary]
    rfl
  · rw [if_neg hprimary, beq_false_of_ne hprimary]
    rfl

/-- Fields made from columns and their places have the names of the columns, in order. -/
theorem map_zipIdx_names (columns : List StoredColumn) {field : StoredColumn × Nat → Field}
    (hname : ∀ p, (field p).name = p.1.name) :
    ((columns.zipIdx 1).map field).map Field.name = columns.map StoredColumn.name := by
  have hnames : Field.name ∘ field = StoredColumn.name ∘ Prod.fst := funext hname
  rw [List.map_map, hnames, ← List.map_map, List.zipIdx_map_fst]

/-- Fields under the names of distinct columns are distinct. -/
theorem distinctFields_map {columns : List StoredColumn}
    (h : columns.Pairwise fun a b => engine.namesEqual a.name b.name = false)
    {field : StoredColumn × Nat → Field} (hname : ∀ p, (field p).name = p.1.name) :
    DistinctFields engine ((columns.zipIdx 1).map field) := by
  unfold DistinctFields
  rw [map_zipIdx_names columns hname, List.pairwise_map]
  exact h

/-- The flags of a column go to its own field. -/
theorem applyFlags_columns {t : StoredTable}
    (h : t.columns.Pairwise fun a b => engine.namesEqual a.name b.name = false) :
    (applyFlags engine t.row.fullName (columnFields engine t.row.fullName t.columnRows).1
      t.flagsRows).1 = (t.columns.zipIdx 1).map fun p => flaggedField engine t p.1 p.2 := by
  have hrows : t.flagsRows.Pairwise fun a b => engine.namesEqual a.name b.name = false :=
    List.pairwise_map.2 h
  rw [columnFields_fst, StoredTable.columnRows_eq, List.map_map, applyFlags_fst,
    foldl_modifyField ColumnFlagsRow.name (withFlags engine) (fun _ _ => rfl)
      (distinctFields_map h fun _ => rfl), List.map_map]
  refine List.map_congr_left fun p hp => ?_
  have hcolumn : p.1 ∈ t.columns := List.fst_mem_of_mem_zipIdx hp
  exact changed_of_mem ColumnFlagsRow.name (withFlags engine) (fun _ _ => rfl) hrows
    (List.mem_map_of_mem hcolumn) rfl

theorem columnFields_names (table : String) (t : StoredTable) :
    (columnFields engine table t.columnRows).1.map Field.name =
      t.columns.map StoredColumn.name := by
  rw [columnFields_fst, StoredTable.columnRows_eq, List.map_map, List.map_map]
  show (t.columns.zipIdx 1).map (StoredColumn.name ∘ Prod.fst) = _
  rw [← List.map_map, List.zipIdx_map_fst]

/-- The fields of a loaded table are those of its columns. -/
theorem tableType_fields (htables : s.DistinctTables) {t : StoredTable} (ht : t ∈ s.tables)
    (hcolumns : t.columns.Pairwise fun a b => s.engine.namesEqual a.name b.name = false)
    {ty : ApplicationType} (h : tableType s t.row = .ok ty) :
    ty.fields = (t.columns.zipIdx 1).map fun p => fieldOf s.engine t p.1 p.2 := by
  obtain ⟨hkeys, _⟩ := applyConstraints_ok h
  -- The catalog answers with the rows of this very table: no other one goes by its key.
  simp only [CatalogSnapshot.ofTable_row htables ht] at hkeys
  rw [hkeys, applyFlags_columns hcolumns, markKeys_eq_map (distinctFields_map hcolumns fun _ => rfl),
    List.map_map]
  refine List.map_congr_left fun p _ => ?_
  have hmark : (primaryColumns t.constraints).any (s.engine.namesEqual p.1.name) =
      t.isKeyColumn s.engine p.1 := any_primaryColumns _ _
  rw [Function.comp_apply, fieldOf, ← hmark]
  rfl

theorem tableType_names (htables : s.DistinctTables) {t : StoredTable} (ht : t ∈ s.tables)
    (hcolumns : t.columns.Pairwise fun a b => s.engine.namesEqual a.name b.name = false)
    {ty : ApplicationType} (h : tableType s t.row = .ok ty) :
    ty.fields.map Field.name = t.columns.map StoredColumn.name := by
  rw [tableType_fields htables ht hcolumns h]
  exact map_zipIdx_names t.columns fun _ => rfl

theorem tableType_distinct (htables : s.DistinctTables) {t : StoredTable} (ht : t ∈ s.tables)
    (hcolumns : t.columns.Pairwise fun a b => s.engine.namesEqual a.name b.name = false)
    {ty : ApplicationType} (h : tableType s t.row = .ok ty) : DistinctFields s.engine ty.fields := by
  rw [tableType_fields htables ht hcolumns h]
  exact distinctFields_map hcolumns fun _ => rfl

theorem tableType_constraints (htables : s.DistinctTables) {t : StoredTable} (ht : t ∈ s.tables)
    {ty : ApplicationType} (h : tableType s t.row = .ok ty) :
    List.Forall₂ (Constraint.Resolves s.engine (t.columns.map StoredColumn.name)) t.constraints
      ty.constraints := by
  obtain ⟨_, added, hadded, hresolves⟩ := applyConstraints_ok h
  simp only [CatalogSnapshot.ofTable_row htables ht, List.nil_append] at hadded hresolves
  rw [applyFlags_names, columnFields_names] at hresolves
  rw [hadded]
  exact hresolves

end Offline

/-! ## References -/

/-- What the last of several foreign keys says that starts from a column and finds its target. -/
def Domain.referenceOf (d : Domain) (fks : List ForeignKeyRow) (column : String) :
    Option FieldReference :=
  (fks.filterMap fun fk =>
    if d.engine.namesEqual column fk.column then d.fieldAt? fk.target fk.refColumn
    else none).getLast?

namespace Offline

variable {s : CatalogSnapshot} {settings : Settings} {d start : Domain} {engine : Engine}

/-- A field that points where a foreign key does, when that finds its target. -/
def pointedField (d : Domain) (fk : ForeignKeyRow) (f : Field) : Field :=
  match d.fieldAt? fk.target fk.refColumn with
  | none => f
  | some target => { f with references := some target }

theorem pointedField_name (d : Domain) (fk : ForeignKeyRow) (f : Field) :
    (pointedField d fk f).name = f.name := by
  unfold pointedField
  cases d.fieldAt? fk.target fk.refColumn with
  | none => rfl
  | some target => rfl

theorem pointed_eq (d : Domain) (t : ApplicationType) (fk : ForeignKeyRow) :
    d.pointed t fk =
      { t with fields := modifyField d.engine t.fields fk.column (pointedField d fk) } := by
  unfold Domain.pointed pointedField
  cases d.fieldAt? fk.target fk.refColumn with
  | none =>
      show t = { t with fields := modifyField d.engine t.fields fk.column fun f => f }
      unfold modifyField
      rw [modifyFirst_id]
  | some target => rfl

theorem foldl_pointed_eq (d : Domain) (t : ApplicationType) (fks : List ForeignKeyRow) :
    fks.foldl d.pointed t =
      { t with
        fields := fks.foldl (fun fields fk =>
          modifyField d.engine fields fk.column (pointedField d fk)) t.fields } := by
  induction fks generalizing t with
  | nil => rfl
  | cons fk rest ih => rw [List.foldl_cons, ih, pointed_eq, List.foldl_cons]

/-- The last foreign key that names a field and finds its target decides. -/
theorem changed_point (d : Domain) (fks : List ForeignKeyRow) (f : Field) :
    changed d.engine ForeignKeyRow.column (pointedField d) fks f =
      { f with references := (d.referenceOf fks f.name).or f.references } := by
  induction fks generalizing f with
  | nil => rfl
  | cons fk rest ih =>
      -- The first one counts only where none of the others does.
      have hhead : d.referenceOf (fk :: rest) f.name = (d.referenceOf rest f.name).or
          (if d.engine.namesEqual f.name fk.column then d.fieldAt? fk.target fk.refColumn
            else none) := by
        unfold Domain.referenceOf
        rw [List.filterMap_cons]
        split
        · rename_i hnone
          rw [hnone, Option.or_none]
        · rename_i target hsome
          rw [hsome, List.getLast?_cons]
          cases List.getLast? _ with
          | none => rfl
          | some last => rfl
      rw [changed_cons, hhead]
      by_cases hnamed : d.engine.namesEqual f.name fk.column
      · rw [if_pos hnamed, if_pos hnamed, ih, pointedField_name]
        unfold pointedField
        cases d.fieldAt? fk.target fk.refColumn with
        | none => rw [Option.or_none]
        | some target => rw [Option.or_assoc, Option.some_or]
      · rw [if_neg hnamed, if_neg hnamed, ih, Option.or_none]

/-- The type of a table has the fields of the loaded type, pointed where the foreign keys say. -/
theorem finalType_fields {row : TableRow}
    (h : DistinctFields s.engine (loadedType s row).fields) :
    (finalType s settings row).fields = (loadedType s row).fields.map fun f => { f with
      references := ((loadedDomain s settings).referenceOf
        (s.ofTable row StoredTable.foreignKeys) f.name).or f.references } := by
  unfold finalType
  rw [foldl_pointed_eq]
  have hpass := foldl_modifyField ForeignKeyRow.column (pointedField (loadedDomain s settings))
    (pointedField_name _) h (s.ofTable row StoredTable.foreignKeys)
  exact hpass.trans (List.map_congr_left fun f _ => changed_point (loadedDomain s settings) _ f)

/-! ## The stage -/

/-- Of fields with the names of distinct columns one at most has a given name. -/
theorem DistinctFields.eq_of_name {fields : List Field} (h : DistinctFields engine fields)
    {f g : Field} (hf : f ∈ fields) (hg : g ∈ fields) (hname : f.name = g.name) : f = g := by
  by_contra hne
  have hsymm : Std.Symm fun f g : Field => engine.namesEqual f.name g.name = false :=
    ⟨fun f g hfg => engine.namesEqual_comm f.name g.name ▸ hfg⟩
  have hdistinct := (List.pairwise_map.1 h).forall hf hg hne
  rw [hname, engine.namesEqual_refl] at hdistinct
  cases hdistinct

theorem keyFields_columns {t : StoredTable} {ty : ApplicationType}
    (h : List.Forall₂ (fun p f => f.ReadsColumn engine t p.2 p.1) (t.columns.zipIdx 1) ty.fields) :
    List.Forall₂ (fun c f => f.name = c.name) (t.keyColumns engine) ty.keyFields := by
  have hall : List.Forall₂ (fun c f => f.name = c.name ∧ f.isKey = t.isKeyColumn engine c)
      t.columns ty.fields := by
    rw [← List.zipIdx_map_fst 1 t.columns, List.forall₂_map_left_iff]
    exact h.imp fun p f hf => ⟨hf.name, hf.isKey⟩
  have hmarked := List.rel_filter (p := t.isKeyColumn engine) (q := Field.isKey)
    (fun c f hf => Bool.eq_iff_iff.1 hf.2.symm) hall
  exact hmarked.imp fun c f hf => hf.1

/-- The key field of a type is that of the only column which primary keys list. -/
theorem keyField_columns {ty : ApplicationType} {columns : List StoredColumn}
    (hkeys : List.Forall₂ (fun c f => f.name = c.name) columns ty.keyFields)
    (hdistinct : DistinctFields engine ty.fields) :
    (∀ f, ty.keyField = .ok f ↔ ∃ c, columns = [c] ∧ f ∈ ty.fields ∧ f.name = c.name) ∧
      (ty.keyField = Fault.setting (.noPrimaryKey ty.key.text) ↔ columns = []) ∧
      (ty.keyField = .error (.compositeKey ty.key.text) ↔ 2 ≤ columns.length) := by
  have hmem : ∀ f ∈ ty.keyFields, f ∈ ty.fields := fun f hf => (List.mem_filter.1 hf).1
  unfold ApplicationType.keyField
  generalize ty.keyFields = keys at hkeys hmem ⊢
  -- There are as many key fields as columns: none, one, or several.
  cases hkeys with
  | nil =>
      refine ⟨fun f => ⟨nofun, ?_⟩, iff_of_true rfl rfl, iff_of_false nofun nofun⟩
      rintro ⟨c, hc, _⟩
      cases hc
  | @cons c g _ _ hname hrest =>
      cases hrest with
      | nil =>
          refine ⟨fun f => ⟨?_, ?_⟩, iff_of_false nofun nofun, iff_of_false nofun nofun⟩
          · intro h
            cases h
            exact ⟨c, rfl, hmem g List.mem_cons_self, hname⟩
          · rintro ⟨c', hc, hf, hf'⟩
            cases hc
            rw [hdistinct.eq_of_name (hmem g List.mem_cons_self) hf (hname.trans hf'.symm)]
      | cons _ _ =>
          refine ⟨fun f => ⟨nofun, ?_⟩, iff_of_false nofun nofun, iff_of_true rfl ?_⟩
          · rintro ⟨c, hc, _⟩
            cases hc
          · exact Nat.le_add_left 2 _

theorem finalType_mirrors (htables : s.DistinctTables) {t : StoredTable} (ht : t ∈ s.tables)
    (hcolumns : t.columns.Pairwise fun a b => s.engine.namesEqual a.name b.name = false)
    {ty : ApplicationType} (h : tableType s t.row = .ok ty) : (finalType s settings t.row).Mirrors s.engine t := by
  have hdistinct := tableType_distinct htables ht hcolumns h
  -- References change no name, so the fields are as distinct as those of the loaded type.
  have hnames : (finalType s settings t.row).fields.map Field.name = ty.fields.map Field.name := by
    have hsignature := foldl_pointed_signature (loadedDomain s settings) (loadedType s t.row)
      (s.ofTable t.row StoredTable.foreignKeys)
    rw [← loadedType_of_ok h]
    exact congrArg Prod.snd hsignature
  have hfinal : DistinctFields s.engine (finalType s settings t.row).fields := by
    unfold DistinctFields
    rw [hnames]
    exact hdistinct
  have hreads : List.Forall₂ (fun p f => f.ReadsColumn s.engine t p.2 p.1) (t.columns.zipIdx 1)
      (finalType s settings t.row).fields := by
    rw [finalType_fields (loadedType_of_ok h ▸ hdistinct), loadedType_of_ok h,
      tableType_fields htables ht hcolumns h, List.map_map, List.forall₂_map_right_iff,
      List.forall₂_same]
    exact fun p _ => fieldOf_reads t p.1 p.2 _
  obtain ⟨hone, hnone, hseveral⟩ := keyField_columns (keyFields_columns hreads) hfinal
  obtain ⟨hkey, hattributes⟩ := tableType_key h
  refine ⟨?_, ?_, hreads, ?_, hone, hnone, hseveral⟩
  · rw [finalType_key, loadedType_of_ok h, hkey]
  · unfold finalType
    rw [foldl_pointed_attributes, loadedType_of_ok h, hattributes]
    rfl
  · have hconstraints := tableType_constraints htables ht h
    unfold finalType
    rw [foldl_pointed_eq, loadedType_of_ok h]
    exact hconstraints

/-- Where the stage succeeds, the domain has the type of each loaded table, in order. -/
theorem typeStage_types (htables : s.DistinctTables)
    (h : typeStage s settings start = (.ok (), d)) :
    d.types = (s.included settings.excludedSchemas).map fun t => finalType s settings t.row := by
  obtain ⟨_, rfl⟩ := (typeStage_eq_ok (distinctRows htables _)).1 h
  exact List.map_map

/-- Where no two tables go by one key and no two columns of a table by one name, the types of a
domain are those of the tables outside the excluded schemas, in order, and each mirrors its
table. -/
theorem types_mirror_tables (htables : s.DistinctTables) (hcolumns : s.DistinctColumns)
    {executed : List String}
    (h : (run (inspectTypes s.catalog settings) executed start).result = .ok d) :
    List.Forall₂ (fun t ty => ty.Mirrors s.engine t) (s.included settings.excludedSchemas)
      d.types := by
  have hstage := inspectTypes_eq_ok.1 h
  obtain ⟨hall, _⟩ := (typeStage_eq_ok (distinctRows htables _)).1 hstage
  rw [typeStage_types htables hstage, List.forall₂_map_right_iff, List.forall₂_same]
  intro t ht
  obtain ⟨⟨ty, hty⟩, _⟩ := hall t.row (List.mem_map_of_mem ht)
  have hstored := CatalogSnapshot.mem_included ht
  exact finalType_mirrors htables hstored (hcolumns t hstored) hty

/-- The key of the second table is its only column, which the primary key spells in another letter
case. -/
theorem orders_customer_key :
    ∃ d ty f, (run (inspectTypes orders.catalog .standard) [] default).result = .ok d ∧
      ty ∈ d.types ∧ ty.key = ⟨"dbo", "Customer"⟩ ∧ ty.keyField = .ok f ∧ f.name = "CustomerId" ∧
      f.order = 1 ∧ f.isGenerated = true := by
  obtain ⟨_, hrun⟩ := orders_inspected
  obtain ⟨d, htypes, _⟩ := inspect_eq_ok.1 hrun
  have hd : (run (inspectTypes orders.catalog .standard) [] default).result = .ok d :=
    inspectTypes_eq_ok.2 htypes
  have hall := types_mirror_tables (by decide +kernel) (by decide +kernel) hd
  obtain ⟨order, rest, _, hrest, hd'⟩ := List.forall₂_cons_left_iff.1 hall
  obtain ⟨customer, _, hcustomer, _, rfl⟩ := List.forall₂_cons_left_iff.1 hrest
  obtain ⟨f, _, hf, _, hfields⟩ := List.forall₂_cons_left_iff.1 hcustomer.fields
  have hmem : f ∈ customer.fields := hfields ▸ List.mem_cons_self
  refine ⟨d, customer, f, hd, ?_, hcustomer.key, ?_, hf.name, hf.order, hf.isGenerated⟩
  · rw [hd']
    exact List.mem_cons_of_mem order List.mem_cons_self
  · exact (hcustomer.keyField f).2 ⟨_, by decide +kernel, hmem, hf.name⟩

end Offline

end SchemaModel
