import SchemaModel.Proofs.Inspection.TableFields
import Mathlib.Data.List.Induction

/-!
# `SchemaModel.Proofs.Inspection.BrokenKeys` — what the first stage fails on

Comments that say nothing, native types that are not mapped and foreign keys to tables that are not
loaded are reported and passed over. What cannot be passed over is a key that names a column which
is not there. Where the names of tables and of columns are distinct, the first stage fails on such
keys and on nothing else, wherever they stand among the tables.

## Contents
- `BrokenKey`: the three ways in which a key names a column that is not there.
- **Look-ups.** `loadedTable?` is the table under a key. `Outlines`: a domain has the keys and the
  column names of the loaded tables; `Outlines.fieldAt?` says what is then found.
- **Faults.** `tableType_error` and `reference_error` say what a fault of a single step is about,
  `typeStage_error` that the stage's is about a broken key.
- `CatalogSnapshot.Refers`: a field points where the last foreign key that counts for it says.
- `inspectTypes_fails_iff`: the stage fails exactly on broken keys; otherwise references are set.
- `sales`: a table with several foreign keys of which only the last can be broken.
-/

namespace SchemaModel

open Inspection

/-! ## Keys that cannot be resolved -/

/-- The table has no column that the engine takes for the name. -/
def StoredTable.Lacks (engine : Engine) (t : StoredTable) (column : String) : Prop :=
  ∀ c ∈ t.columns, engine.namesEqual c.name column = false

instance (engine : Engine) (t : StoredTable) (column : String) :
    Decidable (t.Lacks engine column) :=
  inferInstanceAs (Decidable (∀ c ∈ t.columns, _))

namespace CatalogSnapshot

variable {s : CatalogSnapshot} {settings : Settings} {t : StoredTable} {key : TypeKey}

/-- A key names a column that is not there, in a table outside the excluded schemas: a key
constraint lists a column which its table lacks, or a foreign key whose target is loaded names a
column which the target lacks or one which its own table lacks. Given with it are the table and the
column as they are named there, and what was being resolved. -/
inductive BrokenKey (s : CatalogSnapshot) (settings : Settings) :
    TypeKey → String → String → Prop where
  | constraint {t : StoredTable} {k : KeyConstraintRow} {column : String}
      (ht : t ∈ s.included settings.excludedSchemas) (hk : k ∈ t.constraints)
      (hcolumn : column ∈ k.columns) (hlacks : t.Lacks s.engine column) :
      BrokenKey s settings t.row.key column ("key constraint " ++ k.name)
  | target {t target : StoredTable} {fk : ForeignKeyRow}
      (ht : t ∈ s.included settings.excludedSchemas) (hfk : fk ∈ t.foreignKeys)
      (htarget : target ∈ s.included settings.excludedSchemas)
      (hkey : s.engine.keysEqual target.row.key fk.target = true)
      (hlacks : target.Lacks s.engine fk.refColumn) :
      BrokenKey s settings fk.target fk.refColumn
        ("foreign key " ++ fk.name ++ " on " ++ t.row.key.text)
  | owner {t target : StoredTable} {fk : ForeignKeyRow}
      (ht : t ∈ s.included settings.excludedSchemas) (hfk : fk ∈ t.foreignKeys)
      (htarget : target ∈ s.included settings.excludedSchemas)
      (hkey : s.engine.keysEqual target.row.key fk.target = true)
      (hlacks : t.Lacks s.engine fk.column) :
      BrokenKey s settings t.row.key fk.column ("foreign key " ++ fk.name)

/-! ## Look-ups -/

/-- The loaded table that goes by a key. -/
def loadedTable? (s : CatalogSnapshot) (settings : Settings) (key : TypeKey) :
    Option StoredTable :=
  (s.included settings.excludedSchemas).find? fun t => s.engine.keysEqual t.row.key key

theorem loadedTable?_eq_some (h : s.loadedTable? settings key = some t) :
    t ∈ s.included settings.excludedSchemas ∧ s.engine.keysEqual t.row.key key = true :=
  ⟨List.mem_of_find?_eq_some h,
    List.find?_some (p := fun t : StoredTable => s.engine.keysEqual t.row.key key) h⟩

theorem loadedTable?_of_mem (hdistinct : s.DistinctTables)
    (ht : t ∈ s.included settings.excludedSchemas)
    (hkey : s.engine.keysEqual t.row.key key = true) : s.loadedTable? settings key = some t :=
  find?_key hdistinct (fun _ => mem_included) ht hkey

end CatalogSnapshot

/-- The key of a table with the names of its columns. -/
def StoredTable.signature (t : StoredTable) : TypeKey × List String :=
  (t.row.key, t.columns.map StoredColumn.name)

namespace Offline

variable {s : CatalogSnapshot} {settings : Settings} {d d' start : Domain} {key : TypeKey}
  {column : String} {t : StoredTable} {e : Fault}

/-- The domain has a type under the key of every loaded table, with the names of its columns. -/
structure Outlines (s : CatalogSnapshot) (settings : Settings) (d : Domain) : Prop where
  engine : d.engine = s.engine
  signatures : d.types.map Domain.typeSignature =
    (s.included settings.excludedSchemas).map StoredTable.signature

theorem loadedDomain_outlines (htables : s.DistinctTables) (hcolumns : s.DistinctColumns)
    (hload : Loads s settings) : Outlines s settings (loadedDomain s settings) where
  engine := rfl
  signatures := by
    show (((s.included settings.excludedSchemas).map StoredTable.row).map _).map _ = _
    rw [List.map_map, List.map_map]
    refine List.map_congr_left fun t ht => ?_
    obtain ⟨ty, hty⟩ := hload t.row (List.mem_map_of_mem ht)
    have hstored := CatalogSnapshot.mem_included ht
    have hnames := tableType_names htables hstored (hcolumns t hstored) hty
    rw [Function.comp_apply, Function.comp_apply, loadedType_of_ok hty]
    exact Prod.ext (tableType_key hty).1 hnames

namespace Outlines

theorem retyped (h : Outlines s settings d) (hd : Retyped d d') : Outlines s settings d' where
  engine := hd.engine.trans h.engine
  signatures := hd.signatures.trans h.signatures

theorem findType? (h : Outlines s settings d) (key : TypeKey) :
    (d.findType? key).map Domain.typeSignature =
      (s.loadedTable? settings key).map StoredTable.signature := by
  rw [findType?_signature, h.signatures, h.engine, List.find?_map]
  rfl

theorem isSome_findType? (h : Outlines s settings d) (key : TypeKey) :
    (d.findType? key).isSome = (s.loadedTable? settings key).isSome := by
  rw [← Option.isSome_map (f := Domain.typeSignature), h.findType?, Option.isSome_map]

theorem fieldAt? (h : Outlines s settings d) (key : TypeKey) (column : String) :
    d.fieldAt? key column = (s.loadedTable? settings key).bind fun t =>
      (t.columns.find? fun c => s.engine.namesEqual c.name column).map fun c =>
        ⟨t.row.key, c.name⟩ := by
  rw [fieldAt?_signature, h.findType?, h.engine]
  cases s.loadedTable? settings key with
  | none => rfl
  | some t =>
      show ((t.columns.map StoredColumn.name).find? _).map _ = Option.map _ _
      rw [List.find?_map, Option.map_map]
      rfl

/-- Nothing is found under the key of a loaded table exactly when it lacks the column. -/
theorem fieldAt?_eq_none (h : Outlines s settings d) (ht : s.loadedTable? settings key = some t) :
    d.fieldAt? key column = none ↔ t.Lacks s.engine column := by
  rw [h.fieldAt?, ht, Option.bind_some, Option.map_eq_none_iff, List.find?_eq_none]
  exact forall₂_congr fun c _ => Bool.eq_false_iff.symm

end Outlines

/-! ## Faults -/

theorem constraintNames_error {engine : Engine} {table label : String} {fields : List Field}
    {columns : List String} (h : constraintNames engine table label fields columns = .error e) :
    ∃ column ∈ columns, (∀ f ∈ fields, engine.namesEqual f.name column = false) ∧
      e = .missingField table column ("key constraint " ++ label) := by
  induction columns with
  | nil => cases h
  | cons column rest ih =>
      unfold constraintNames at h
      cases hfind : findField? engine fields column with
      | none =>
          simp only [hfind] at h
          cases h
          refine ⟨column, List.mem_cons_self, fun f hf => ?_, rfl⟩
          exact Bool.eq_false_iff.2 (List.find?_eq_none.1 hfind f hf)
      | some f =>
          simp only [hfind] at h
          cases hrest : constraintNames engine table label fields rest with
          | error e' =>
              rw [hrest] at h
              cases h
              obtain ⟨missing, hmem, hall⟩ := ih hrest
              exact ⟨missing, List.mem_cons_of_mem column hmem, hall⟩
          | ok names =>
              rw [hrest] at h
              cases h

theorem applyConstraint_error {engine : Engine} {table : String} {ty : ApplicationType}
    {row : KeyConstraintRow} (h : applyConstraint engine table ty row = .error e) :
    ∃ column ∈ row.columns,
      (∀ name ∈ ty.fields.map Field.name, engine.namesEqual name column = false) ∧
      e = .missingField table column ("key constraint " ++ row.name) := by
  unfold applyConstraint at h
  cases hnames : constraintNames engine table row.name ty.fields row.columns with
  | error e' =>
      rw [hnames] at h
      cases h
      obtain ⟨column, hmem, hmissing, he⟩ := constraintNames_error hnames
      exact ⟨column, hmem, List.forall_mem_map.2 hmissing, he⟩
  | ok names =>
      rw [hnames] at h
      cases h

/-- Adding constraints fails on a column that the type never had. -/
theorem applyConstraints_error {engine : Engine} {table : String} {ty : ApplicationType}
    {rows : List KeyConstraintRow} (h : applyConstraints engine table ty rows = .error e) :
    ∃ k ∈ rows, ∃ column ∈ k.columns,
      (∀ name ∈ ty.fields.map Field.name, engine.namesEqual name column = false) ∧
      e = .missingField table column ("key constraint " ++ k.name) := by
  induction rows generalizing ty with
  | nil => cases h
  | cons row rest ih =>
      unfold applyConstraints at h
      cases hfirst : applyConstraint engine table ty row with
      | error e' =>
          simp only [hfirst] at h
          cases h
          exact ⟨row, List.mem_cons_self, applyConstraint_error hfirst⟩
      | ok ty₁ =>
          simp only [hfirst] at h
          have hnames : ty₁.fields.map Field.name = ty.fields.map Field.name := by
            rw [(applyConstraint_ok hfirst).1, markKeys_names]
          obtain ⟨k, hk, hmissing⟩ := ih h
          rw [hnames] at hmissing
          exact ⟨k, List.mem_cons_of_mem row hk, hmissing⟩

/-- A table that cannot be loaded has a constraint that lists a column which it lacks. -/
theorem tableType_error (htables : s.DistinctTables) (ht : t ∈ s.tables)
    (h : tableType s t.row = .error e) :
    ∃ k ∈ t.constraints, ∃ column ∈ k.columns, t.Lacks s.engine column ∧
      e = .missingField t.row.key.text column ("key constraint " ++ k.name) := by
  obtain ⟨k, hk, column, hcolumn, hmissing, he⟩ := applyConstraints_error h
  simp only [CatalogSnapshot.ofTable_row htables ht] at hk hmissing
  rw [applyFlags_names, columnFields_names, List.forall_mem_map] at hmissing
  exact ⟨k, hk, column, hcolumn, hmissing, he⟩

theorem tableStage_error {rows : List TableRow} (h : tableStage s rows d = (.error e, d')) :
    ∃ row ∈ rows, tableType s row = .error e := by
  induction rows generalizing d with
  | nil => cases h
  | cons row rest ih =>
      unfold tableStage at h
      rcases Build.bind_eq_error.1 h with hfirst | ⟨ty, d₁, hfirst, hmore⟩
      · exact ⟨row, List.mem_cons_self, congrArg Prod.fst hfirst⟩
      · rw [Build.act_bind] at hmore
        rcases Build.bind_eq_error.1 hmore with hrest | ⟨pending, d₂, _, hlast⟩
        · obtain ⟨bad, hbad, he⟩ := ih hrest
          exact ⟨bad, List.mem_cons_of_mem row hbad, he⟩
        · cases hlast

/-- A foreign key fails where its table is loaded and a field is missing on one of its sides. -/
theorem reference_error {owner : TypeKey} {fk : ForeignKeyRow}
    (h : reference owner fk d = (.error e, d')) :
    (d.findType? fk.target).isSome = true ∧
      ((d.fieldAt? fk.target fk.refColumn = none ∧
          e = .missingField fk.target.text fk.refColumn
            ("foreign key " ++ fk.name ++ " on " ++ owner.text)) ∨
        (d.fieldAt? owner fk.column = none ∧
          e = .missingField owner.text fk.column ("foreign key " ++ fk.name))) := by
  unfold reference resolveForeignKey at h
  unfold Domain.fieldAt? ForeignKeyRow.target
  dsimp only at h
  -- The target comes first: where its table is not loaded, nothing can fail.
  cases htarget : d.findType? ⟨fk.refSchema, fk.refTable⟩ with
  | none =>
      simp only [htarget] at h
      cases h
  | some target =>
      simp only [htarget] at h
      refine ⟨rfl, ?_⟩
      cases hfield : findField? d.engine target.fields fk.refColumn with
      | none =>
          simp only [hfield] at h
          cases h
          refine .inl ⟨?_, rfl⟩
          rw [Option.bind_some, hfield]
          rfl
      | some field =>
          simp only [hfield] at h
          cases hown : (d.findType? owner).bind fun t => findField? d.engine t.fields fk.column with
          | none =>
              simp only [hown] at h
              cases h
              refine .inr ⟨?_, rfl⟩
              rw [Option.bind_eq_none_iff] at hown ⊢
              intro ty hty
              rw [hown ty hty]
              rfl
          | some own =>
              simp only [hown] at h
              cases h

theorem references_error {owner : TypeKey} {fks : List ForeignKeyRow}
    (h : references owner fks d = (.error e, d')) :
    ∃ fk ∈ fks, ∃ d₁, Retyped d d₁ ∧ reference owner fk d₁ = (.error e, d') := by
  induction fks generalizing d with
  | nil => cases h
  | cons fk rest ih =>
      unfold references at h
      rcases Build.bind_eq_error.1 h with hfirst | ⟨_, d₁, hfirst, hrest⟩
      · exact ⟨fk, List.mem_cons_self, d, .refl d, hfirst⟩
      · obtain ⟨bad, hbad, d₂, hretyped, hfails⟩ := ih hrest
        exact ⟨bad, List.mem_cons_of_mem fk hbad, d₂, (reference_retyped hfirst).trans hretyped,
          hfails⟩

theorem referenceStage_error {pending : List (TypeKey × List ForeignKeyRow)}
    (h : referenceStage pending d = (.error e, d')) :
    ∃ entry ∈ pending, ∃ fk ∈ entry.2, ∃ d₁, Retyped d d₁ ∧
      reference entry.1 fk d₁ = (.error e, d') := by
  induction pending generalizing d with
  | nil => cases h
  | cons entry rest ih =>
      unfold referenceStage at h
      rcases Build.bind_eq_error.1 h with hfirst | ⟨_, d₁, hfirst, hrest⟩
      · exact ⟨entry, List.mem_cons_self, references_error hfirst⟩
      · obtain ⟨bad, hbad, fk, hfk, d₂, hretyped, hfails⟩ := ih hrest
        exact ⟨bad, List.mem_cons_of_mem entry hbad, fk, hfk, d₂,
          (references_retyped hfirst).trans hretyped, hfails⟩

/-- A foreign key that fails is broken, whatever references were set before it. -/
theorem brokenKey_of_reference (htables : s.DistinctTables) (hd : Outlines s settings d)
    (ht : t ∈ s.included settings.excludedSchemas) {fk : ForeignKeyRow} (hfk : fk ∈ t.foreignKeys)
    (h : reference t.row.key fk d = (.error e, d')) :
    ∃ key column context, s.BrokenKey settings key column context ∧
      e = .missingField key.text column context := by
  obtain ⟨htarget, hmissing⟩ := reference_error h
  rw [hd.isSome_findType?, Option.isSome_iff_exists] at htarget
  obtain ⟨target, hfound⟩ := htarget
  obtain ⟨hloaded, hkey⟩ := CatalogSnapshot.loadedTable?_eq_some hfound
  have hown : s.loadedTable? settings t.row.key = some t :=
    CatalogSnapshot.loadedTable?_of_mem htables ht (s.engine.keysEqual_refl _)
  rcases hmissing with ⟨hnone, rfl⟩ | ⟨hnone, rfl⟩
  · exact ⟨_, _, _, .target ht hfk hloaded hkey ((hd.fieldAt?_eq_none hfound).1 hnone), rfl⟩
  · exact ⟨_, _, _, .owner ht hfk hloaded hkey ((hd.fieldAt?_eq_none hown).1 hnone), rfl⟩

/-- Whatever the stage fails on is a broken key, and the fault says which one. -/
theorem typeStage_error (htables : s.DistinctTables) (hcolumns : s.DistinctColumns)
    (h : typeStage s settings start = (.error e, d)) :
    ∃ key column context, s.BrokenKey settings key column context ∧
      e = .missingField key.text column context := by
  unfold typeStage at h
  rw [Build.act_bind] at h
  rcases Build.bind_eq_error.1 h with hfails | ⟨pending, d₁, hloads, hfails⟩
  · obtain ⟨row, hrow, hbad⟩ := tableStage_error hfails
    obtain ⟨t, ht, rfl⟩ := List.mem_map.1 hrow
    obtain ⟨k, hk, column, hcolumn, hlacks, rfl⟩ :=
      tableType_error htables (CatalogSnapshot.mem_included ht) hbad
    exact ⟨_, _, _, .constraint ht hk hcolumn hlacks, rfl⟩
  · obtain ⟨rfl, ts, hts, rfl⟩ := tableStage_eq_ok.1 hloads
    obtain ⟨hload, rfl⟩ := tableTypes_iff.1 hts
    obtain ⟨entry, hentry, fk, hfk, d₂, hretyped, hbad⟩ := referenceStage_error hfails
    obtain ⟨row, hrow, rfl⟩ := List.mem_map.1 hentry
    obtain ⟨t, ht, rfl⟩ := List.mem_map.1 hrow
    -- The references that were set before it changed no key and no name.
    have hd : Outlines s settings d₂ :=
      (loadedDomain_outlines htables hcolumns hload).retyped hretyped
    have hown : fk ∈ t.foreignKeys := by
      rw [← CatalogSnapshot.ofTable_row htables (CatalogSnapshot.mem_included ht)
        StoredTable.foreignKeys]
      exact hfk
    exact brokenKey_of_reference htables hd ht hown hbad

/-! ## Success -/

/-- A table that can be loaded has every column that its constraints list. -/
theorem not_lacks_of_tableType (htables : s.DistinctTables) (ht : t ∈ s.tables)
    {ty : ApplicationType} (h : tableType s t.row = .ok ty) {k : KeyConstraintRow}
    (hk : k ∈ t.constraints) (hcolumn : column ∈ k.columns) :
    ¬t.Lacks s.engine column := by
  intro hlacks
  obtain ⟨c, _, hresolves⟩ := exists_of_forall₂ (tableType_constraints htables ht h) hk
  obtain ⟨name, _, hname, hsame⟩ := exists_of_forall₂ hresolves.fields hcolumn
  obtain ⟨own, hown, rfl⟩ := List.mem_map.1 hname
  rw [hlacks own hown] at hsame
  cases hsame

/-- A resolvable foreign key of a loaded table whose target is loaded lacks neither column. -/
theorem not_lacks_of_resolvable (htables : s.DistinctTables) (hd : Outlines s settings d)
    (ht : t ∈ s.included settings.excludedSchemas) {fk : ForeignKeyRow}
    (h : d.Resolvable t.row.key fk) {target : StoredTable}
    (htarget : s.loadedTable? settings fk.target = some target) :
    ¬target.Lacks s.engine fk.refColumn ∧ ¬t.Lacks s.engine fk.column := by
  have hown : s.loadedTable? settings t.row.key = some t :=
    CatalogSnapshot.loadedTable?_of_mem htables ht (s.engine.keysEqual_refl _)
  have hfound : (d.findType? fk.target).isSome = true := by
    rw [hd.isSome_findType?, htarget]
    rfl
  obtain ⟨hfield, hfield'⟩ := h hfound
  rw [← hd.fieldAt?_eq_none htarget, ← hd.fieldAt?_eq_none hown]
  exact ⟨Option.isSome_iff_ne_none.1 hfield, Option.isSome_iff_ne_none.1 hfield'⟩

/-- Where the stage succeeds, every table was loaded and every foreign key resolved. -/
theorem resolvable_of_typeStage (htables : s.DistinctTables)
    (h : typeStage s settings start = (.ok (), d)) :
    Loads s settings ∧ ∀ t ∈ s.included settings.excludedSchemas, ∀ fk ∈ t.foreignKeys,
      (loadedDomain s settings).Resolvable t.row.key fk := by
  obtain ⟨hall, _⟩ := (typeStage_eq_ok (distinctRows htables _)).1 h
  refine ⟨fun row hrow => (hall row hrow).1, fun t ht fk hfk => ?_⟩
  refine (hall t.row (List.mem_map_of_mem ht)).2 fk ?_
  rw [CatalogSnapshot.ofTable_row htables (CatalogSnapshot.mem_included ht)]
  exact hfk

/-- Where the stage succeeds, no key is broken. -/
theorem not_brokenKey (htables : s.DistinctTables) (hcolumns : s.DistinctColumns)
    (h : typeStage s settings start = (.ok (), d)) {context : String} :
    ¬s.BrokenKey settings key column context := by
  obtain ⟨hload, hresolvable⟩ := resolvable_of_typeStage htables h
  have hd := loadedDomain_outlines htables hcolumns hload
  intro hbroken
  cases hbroken with
  | @constraint t k column ht hk hcolumn hlacks =>
      obtain ⟨ty, hty⟩ := hload t.row (List.mem_map_of_mem ht)
      exact not_lacks_of_tableType htables (CatalogSnapshot.mem_included ht) hty hk hcolumn hlacks
  | @target t target fk ht hfk htarget hkey hlacks =>
      have hfound := CatalogSnapshot.loadedTable?_of_mem htables htarget hkey
      exact (not_lacks_of_resolvable htables hd ht (hresolvable t ht fk hfk) hfound).1 hlacks
  | @owner t target fk ht hfk htarget hkey hlacks =>
      have hfound := CatalogSnapshot.loadedTable?_of_mem htables htarget hkey
      exact (not_lacks_of_resolvable htables hd ht (hresolvable t ht fk hfk) hfound).2 hlacks

end Offline

/-! ## References -/

namespace CatalogSnapshot

/-- The foreign keys of a table that start from a column and whose target is loaded. -/
def referring (s : CatalogSnapshot) (settings : Settings) (t : StoredTable) (column : String) :
    List ForeignKeyRow :=
  t.foreignKeys.filter fun fk =>
    (s.loadedTable? settings fk.target).isSome && s.engine.namesEqual column fk.column

/-- The field of a table points at what the last foreign key says that starts from it and whose
target is loaded, and at nothing when there is no such key. -/
structure Refers (s : CatalogSnapshot) (settings : Settings) (t : StoredTable) (f : Field) :
    Prop where
  nothing : s.referring settings t f.name = [] → f.references = none
  last : ∀ fk, (s.referring settings t f.name).getLast? = some fk →
    ∃ target ∈ s.included settings.excludedSchemas, ∃ c ∈ target.columns,
      s.engine.keysEqual target.row.key fk.target = true ∧
      s.engine.namesEqual c.name fk.refColumn = true ∧
      f.references = some ⟨target.row.key, c.name⟩

end CatalogSnapshot

namespace Offline

variable {s : CatalogSnapshot} {settings : Settings} {d start : Domain} {t : StoredTable}

/-- The last value of a partial function is its value at the last element where it has one. -/
theorem getLast?_filterMap_eq {α β : Type} {g : α → Option β} {q : α → Bool} {xs : List α}
    (h : ∀ x ∈ xs, (g x).isSome = q x) :
    (xs.filterMap g).getLast? = (xs.filter q).getLast?.bind g := by
  induction xs using List.reverseRecOn with
  | nil => rfl
  | append_singleton xs x ih =>
      have hx := h x (List.mem_append_right xs List.mem_cons_self)
      have hxs := ih fun y hy => h y (List.mem_append_left [x] hy)
      rw [List.filterMap_append, List.filter_append]
      cases hg : g x with
      | none =>
          rw [hg] at hx
          rw [List.filterMap_cons_none hg, List.filter_cons_of_neg (Bool.eq_false_iff.1 hx.symm)]
          simpa using hxs
      | some y =>
          rw [hg] at hx
          rw [List.filterMap_cons_some hg, List.filter_cons_of_pos hx.symm]
          simp [hg]

/-- The target of a resolvable foreign key is found exactly when its table is loaded. -/
theorem fieldAt?_isSome (hd : Outlines s settings d) {owner : TypeKey} {fk : ForeignKeyRow}
    (h : d.Resolvable owner fk) :
    (d.fieldAt? fk.target fk.refColumn).isSome = (s.loadedTable? settings fk.target).isSome := by
  cases hfound : s.loadedTable? settings fk.target with
  | none =>
      rw [hd.fieldAt?, hfound]
      rfl
  | some target =>
      refine (h ?_).1
      rw [hd.isSome_findType?, hfound]
      rfl

/-- Of the foreign keys of a loaded table the last one counts that starts from the column and whose
target is loaded. -/
theorem referenceOf_loaded (hd : Outlines s settings d)
    (h : ∀ fk ∈ t.foreignKeys, d.Resolvable t.row.key fk) (column : String) :
    d.referenceOf t.foreignKeys column =
      (s.referring settings t column).getLast?.bind fun fk =>
        d.fieldAt? fk.target fk.refColumn := by
  have hcounts : ∀ fk ∈ t.foreignKeys,
      (if d.engine.namesEqual column fk.column then d.fieldAt? fk.target fk.refColumn
        else none).isSome =
      ((s.loadedTable? settings fk.target).isSome && s.engine.namesEqual column fk.column) := by
    intro fk hfk
    rw [hd.engine]
    by_cases hnamed : s.engine.namesEqual column fk.column
    · rw [if_pos hnamed, hnamed, Bool.and_true, fieldAt?_isSome hd (h fk hfk)]
    · rw [if_neg hnamed, Bool.eq_false_iff.2 hnamed, Bool.and_false]
      rfl
  unfold Domain.referenceOf
  rw [getLast?_filterMap_eq hcounts]
  refine Option.bind_congr fun fk hlast => ?_
  have hmem := List.mem_filter.1 (List.mem_of_getLast? hlast)
  rw [hd.engine, if_pos (Bool.and_eq_true_iff.1 hmem.2).2]

theorem finalType_refers (htables : s.DistinctTables) (hcolumns : s.DistinctColumns)
    (hload : Loads s settings) (ht : t ∈ s.included settings.excludedSchemas)
    (h : ∀ fk ∈ t.foreignKeys, (loadedDomain s settings).Resolvable t.row.key fk) :
    ∀ f ∈ (finalType s settings t.row).fields, s.Refers settings t f := by
  have hstored := CatalogSnapshot.mem_included ht
  have hd := loadedDomain_outlines htables hcolumns hload
  obtain ⟨ty, hty⟩ := hload t.row (List.mem_map_of_mem ht)
  have hdistinct : DistinctFields s.engine (loadedType s t.row).fields := by
    rw [loadedType_of_ok hty]
    exact tableType_distinct htables hstored (hcolumns _ hstored) hty
  intro f hf
  rw [finalType_fields hdistinct, loadedType_of_ok hty, List.mem_map] at hf
  obtain ⟨f₀, hf₀, rfl⟩ := hf
  -- A loaded field points at nothing, so the foreign keys alone decide.
  rw [(tableType_plain hty).references f₀ hf₀, Option.or_none,
    CatalogSnapshot.ofTable_row htables hstored, referenceOf_loaded hd h]
  constructor
  · intro hnone
    show Option.bind _ _ = none
    rw [hnone]
    rfl
  · intro fk hlast
    obtain ⟨hfk, hcounts⟩ := List.mem_filter.1 (List.mem_of_getLast? hlast)
    obtain ⟨target, hfound⟩ := Option.isSome_iff_exists.1 (Bool.and_eq_true_iff.1 hcounts).1
    obtain ⟨hmem, hkey⟩ := CatalogSnapshot.loadedTable?_eq_some hfound
    have hsome := fieldAt?_isSome hd (h fk hfk)
    rw [hfound, hd.fieldAt?, hfound, Option.bind_some, Option.isSome_map, Option.isSome_some,
      Option.isSome_iff_exists] at hsome
    obtain ⟨c, hc⟩ := hsome
    refine ⟨target, hmem, c, List.mem_of_find?_eq_some hc, hkey, ?_, ?_⟩
    · exact List.find?_some
        (p := fun c : StoredColumn => s.engine.namesEqual c.name fk.refColumn) hc
    · show Option.bind _ _ = _
      rw [hlast, Option.bind_some, hd.fieldAt?, hfound, Option.bind_some, hc]
      rfl

/-! ## The stage -/

/-- Where no two tables go by one key and no two columns of a table by one name, the first stage
fails exactly when some key is broken; the fault then is about a broken key. Otherwise every field
points where the last foreign key says that counts for it. -/
theorem inspectTypes_fails_iff (htables : s.DistinctTables) (hcolumns : s.DistinctColumns)
    (settings : Settings) (executed : List String) (start : Domain) :
    ((∃ e, (run (inspectTypes s.catalog settings) executed start).result = .error e) ↔
      ∃ key column context, s.BrokenKey settings key column context) ∧
    (∀ e, (run (inspectTypes s.catalog settings) executed start).result = .error e →
      e.exitCode = 4 ∧ ∃ key column context, s.BrokenKey settings key column context ∧
        e = .missingField key.text column context) ∧
    ∀ d, (run (inspectTypes s.catalog settings) executed start).result = .ok d →
      List.Forall₂ (fun t ty => ∀ f ∈ ty.fields, s.Refers settings t f)
        (s.included settings.excludedSchemas) d.types := by
  have hfails : ∀ e, (run (inspectTypes s.catalog settings) executed start).result = .error e →
      ∃ key column context, s.BrokenKey settings key column context ∧
        e = .missingField key.text column context := by
    intro e h
    obtain ⟨d, hstage⟩ := inspectTypes_eq_error h
    exact typeStage_error htables hcolumns hstage
  refine ⟨⟨?_, ?_⟩, ?_, ?_⟩
  · rintro ⟨e, h⟩
    obtain ⟨key, column, context, hbroken, _⟩ := hfails e h
    exact ⟨key, column, context, hbroken⟩
  · rintro ⟨key, column, context, hbroken⟩
    rw [Outcome.isError_iff]
    rintro ⟨d, h⟩
    exact not_brokenKey htables hcolumns (inspectTypes_eq_ok.1 h) hbroken
  · intro e h
    obtain ⟨key, column, context, hbroken, rfl⟩ := hfails e h
    exact ⟨rfl, key, column, context, hbroken, rfl⟩
  · intro d h
    have hstage := inspectTypes_eq_ok.1 h
    obtain ⟨hload, hresolvable⟩ := resolvable_of_typeStage htables hstage
    rw [typeStage_types htables hstage, List.forall₂_map_right_iff, List.forall₂_same]
    exact fun t ht => finalType_refers htables hcolumns hload ht (hresolvable t ht)

/-- Sales with three foreign keys, to a table that is not there, to an archive, and to the branches.
The last one starts from a given column. -/
def sales (column : String) : CatalogSnapshot where
  engine := .sqlServer
  tables :=
    [⟨"dbo", "Sale", some "not an object",
      [⟨"Id", "int", none, none, none, false, true, false, none, none⟩,
       ⟨"BranchId", "point3d", none, none, none, true, false, false, none, some "\x7b"⟩],
      [⟨"PK_Sale", .primary, ["ID"]⟩],
      [⟨"FK_Sale_Log", "Nothing", "audit", "Log", "Id"⟩,
       ⟨"FK_Sale_Archive", "BranchId", "dbo", "Archive", "Id"⟩,
       ⟨"FK_Sale_Branch", column, "DBO", "branch", "id"⟩]⟩,
     ⟨"dbo", "Archive", none, [⟨"Id", "int", none, none, none, false, true, false, none, none⟩],
      [], []⟩,
     ⟨"dbo", "Branch", none, [⟨"Id", "int", none, none, none, false, true, false, none, none⟩],
      [], []⟩]
  routines := []
  userTypes := []

/-- The last foreign key starts from a column that the sales do not have. -/
theorem inspectTypes_fails_sales :
    ∃ e, (run (inspectTypes (sales "Branch").catalog .standard) [] default).result = .error e ∧
      e.exitCode = 4 := by
  obtain ⟨hiff, hfault, _⟩ := inspectTypes_fails_iff (s := sales "Branch") (by decide +kernel)
    (by decide +kernel) .standard [] default
  have hsale : (sales "Branch").tables[0] ∈ (sales "Branch").included [] := by decide +kernel
  have hbranch : (sales "Branch").tables[2] ∈ (sales "Branch").included [] := by decide +kernel
  have hkey : ⟨"FK_Sale_Branch", "Branch", "DBO", "branch", "id"⟩ ∈
      (sales "Branch").tables[0].foreignKeys := by decide +kernel
  obtain ⟨e, he⟩ := hiff.2
    ⟨_, _, _, .owner hsale hkey hbranch (by decide +kernel) (by decide +kernel)⟩
  exact ⟨e, he, (hfault e he).1⟩

/-- In another letter case the column is there, and it points at the branch. -/
example :
    ((run (inspectTypes (sales "branchid").catalog .standard) [] default).result.toOption.map
      fun d => d.types.map fun t => t.fields.map Field.references) =
      some [[none, some ⟨⟨"dbo", "Branch"⟩, "Id"⟩], [none], [none]] := by
  decide +kernel

end Offline

end SchemaModel
