import SchemaModel.Proofs.Domain.Shapes
import SchemaModel.Proofs.Inspection.Growth
import SchemaModel.Proofs.Inspection.TableFields

/-!
# `SchemaModel.Proofs.Inspection.Projections` — routines that return the rows of a table

A routine that is about a table and returns all of its columns returns rows of the table's type. To
see this the columns of both are compared, without those that are left out of results. Whether a
column is left out can be told from its name and its native type, in the table as in the rows; only a
comment on the column is known to the table alone. A column that nothing but its comment leaves out is
missing on one side, and the table is not recognized.

## Contents
- `Field.plain`, `Field.isExcludedFromResults_eq`: a column is left out for its name and native type,
  or for its comment. `StoredTable.hides`: for its comment alone.
- `Domain.fieldsMatch_whole_iff`: when all fields of a type match it.
- `operation_rows`: what a routine with several output columns returns.
- `exists_synthesized`: whose columns a result type has that the database has no type for.
- `whole_table_recognized`: what a routine that returns whole rows of its table comes to.
-/

namespace SchemaModel

open Inspection

/-! ## Fields that are left out of results -/

namespace Field

variable {engine : Engine} {style : NamingStyle} {f : Field}

/-- The name and the native type. -/
def column (f : Field) : String × String := (f.name, f.nativeType)

/-- The field of a column of which nothing else is known. -/
def plain (engine : Engine) (column : String × String) : Field :=
  { blank column.1 0 column.2 with valueType := engine.valueType? column.2 }

/-- The kind of values does not depend on nullability. -/
theorem kindIs_of_map {v : Option ValueType} {widen : ValueType → ValueType}
    (hvalue : f.valueType = v.map widen)
    (hwiden : ∀ t, (widen t).kind = t.kind ∧ (widen t).array = t.array) (test : ValueKind → Bool) :
    f.kindIs test = v.any fun t => !t.array && test t.kind := by
  unfold kindIs
  rw [hvalue, Option.any_map]
  congr 1
  funext t
  rw [(hwiden t).1, (hwiden t).2]

/-- A field is left out like every one of its name and native type, or because its own overrides mark
it for search. -/
theorem isExcludedFromResults_eq {widen : ValueType → ValueType}
    (hvalue : f.valueType = (engine.valueType? f.nativeType).map widen)
    (hwiden : ∀ t, (widen t).kind = t.kind ∧ (widen t).array = t.array) :
    f.isExcludedFromResults style = ((plain engine f.column).isExcludedFromResults style ||
      f.attributes.any Attributes.searchVector) := by
  have hplain : (plain engine f.column).valueType = (engine.valueType? f.nativeType).map id :=
    Option.map_id'.symm
  have hkind : ∀ test, f.kindIs test = (plain engine f.column).kindIs test := fun test =>
    (kindIs_of_map hvalue hwiden test).trans (kindIs_of_map hplain (fun _ => ⟨rfl, rfl⟩) test).symm
  have hsoft : f.isSoftDelete style = (plain engine f.column).isSoftDelete style := by
    unfold isSoftDelete
    rw [hkind]
    rfl
  have hsearch : f.isSearchVector =
      ((plain engine f.column).isSearchVector || f.attributes.any Attributes.searchVector) := by
    unfold isSearchVector
    show _ = ((NativeType.normalize f.nativeType == "tsvector" || false) || _)
    rw [Bool.or_false]
  unfold isExcludedFromResults
  rw [hsoft, hsearch, Bool.or_assoc]

theorem ReadsColumn.isExcludedFromResults {t : StoredTable} {n : Nat} {c : StoredColumn}
    (h : f.ReadsColumn engine t n c) :
    f.isExcludedFromResults style =
      ((plain engine f.column).isExcludedFromResults style ||
        f.attributes.any Attributes.searchVector) := by
  have hvalue := h.valueType
  rw [← h.nativeType] at hvalue
  exact isExcludedFromResults_eq hvalue fun _ => ⟨rfl, rfl⟩

end Field

theorem ValueType.withNullability_keeps (v : ValueType) (isNullable : Bool) :
    (v.withNullability isNullable).kind = v.kind ∧
      (v.withNullability isNullable).array = v.array := by
  unfold withNullability nullableForm nonNullable
  cases isNullable with
  | false => exact ⟨rfl, rfl⟩
  | true => cases v.kind.isValueType && !v.array <;> exact ⟨rfl, rfl⟩

/-- Of a column that a routine returns no more is known than its name and native type. -/
theorem Inspection.resultField_isExcludedFromResults {engine : Engine} {style : NamingStyle}
    {owner : String} {rows : List ResultColumnRow} {f : Field}
    (hf : f ∈ (resultFields engine owner rows).1) :
    f.isExcludedFromResults style = (Field.plain engine f.column).isExcludedFromResults style := by
  rw [Offline.resultFields_fst, List.mem_map] at hf
  obtain ⟨row, _, rfl⟩ := hf
  have hvalue : (resultField engine owner row).1.valueType =
      (engine.valueType? (resultField engine owner row).1.nativeType).map fun v =>
        v.withNullability (!!row.isNullable) := rfl
  rw [Field.isExcludedFromResults_eq hvalue fun v => v.withNullability_keeps (!!row.isNullable)]
  exact Bool.or_false _

/-- Names that differ in more than letter case are different names to either engine. -/
theorem Engine.namesEqual_eq_false (engine : Engine) {a b : String}
    (h : Text.eqIgnoreAsciiCase a b = false) : engine.namesEqual a b = false := by
  rw [Bool.eq_false_iff]
  intro hsame
  rw [engine.eqIgnoreAsciiCase_of_namesEqual hsame] at h
  cases h

namespace StoredTable

/-- The column is left out of results for its comment alone: the comment marks it for search, and
other columns of its name and native type are not left out. -/
def hides (engine : Engine) (style : NamingStyle) (t : StoredTable) (c : StoredColumn) : Bool :=
  (Attributes.parse c.description (qualifiedText t.row.fullName c.name)).1.any
      Attributes.searchVector &&
    !(Field.plain engine (c.name, c.nativeType)).isExcludedFromResults style

end StoredTable

namespace Domain

/-- All fields of a type match it, in any order, exactly when its overrides leave out none that would
not be left out without them. -/
theorem fieldsMatch_whole_iff {t : ApplicationType} {given : List Field} {style : NamingStyle}
    {caseSensitive : Bool} (left : String × String → Bool) (marked : Field → Bool)
    (hgiven : ∀ g ∈ given, g.isExcludedFromResults style = left g.column)
    (hfields : ∀ f ∈ t.fields, f.isExcludedFromResults style = (left f.column || marked f))
    (hperm : (given.map Field.column).Perm (t.fields.map Field.column))
    (hdistinct : t.fields.Pairwise fun f g => Text.eqIgnoreAsciiCase f.name g.name = false) :
    fieldsMatch t (projection style given) style caseSensitive = true ↔
      ∀ f ∈ t.fields, marked f = true → left f.column = true := by
  have hwanted : (projection style given).map Field.column =
      (given.map Field.column).filter fun c => !left c := by
    unfold projection
    rw [List.filter_map]
    refine congrArg (List.map Field.column) (List.filter_congr fun g hg => ?_)
    rw [hgiven g hg]
    rfl
  have hshown : ((projection style given).map Field.column).Perm
      ((t.fields.filter fun f => !left f.column).map Field.column) := by
    have hfiltered := hperm.filter fun c => !left c
    rw [List.filter_map (l := t.fields)] at hfiltered
    rw [hwanted]
    exact hfiltered
  have havailable : projection style t.fields =
      (t.fields.filter fun f => !left f.column).filter fun f => !marked f := by
    unfold projection
    rw [List.filter_filter]
    refine List.filter_congr fun f hf => ?_
    rw [hfields f hf, Bool.not_or, Bool.and_comm]
  constructor
  · intro hmatch f hf hmarked
    -- As many fields are shown as are left without those that are marked, so none of them is.
    have hcount : ((t.fields.filter fun f => !left f.column).filter fun f => !marked f).length =
        (t.fields.filter fun f => !left f.column).length := by
      have hlength := hshown.length_eq
      rw [List.length_map, List.length_map] at hlength
      rw [← havailable, (fieldsMatch_iff.1 hmatch).1, hlength]
    have hnone := List.length_filter_eq_length_iff.1 hcount
    by_contra hshows
    have hmem : f ∈ t.fields.filter fun f => !left f.column :=
      List.mem_filter.2 ⟨hf, Bool.not_eq_true' _ ▸ Bool.eq_false_iff.2 hshows⟩
    have hunmarked := hnone f hmem
    rw [hmarked] at hunmarked
    cases hunmarked
  · intro hnone
    have hall : projection style t.fields = t.fields.filter fun f => !left f.column := by
      rw [havailable, List.filter_eq_self]
      intro f hf
      obtain ⟨hmem, hshows⟩ := List.mem_filter.1 hf
      cases hmarked : marked f with
      | false => rfl
      | true =>
          rw [hnone f hmem hmarked] at hshows
          cases hshows
    refine fieldsMatch_of_perm ?_ ?_
    · rw [hall]
      exact hshown.symm
    · rw [hall]
      exact hdistinct.filter _

end Domain

namespace Offline

variable {s : CatalogSnapshot} {settings : Settings} {executed : List String} {start d d' : Domain}
  {o : Operation}

/-! ## What routines return -/

/-- The type that the output columns of an operation are found to have the shape of. -/
def rowsType? (d : Domain) (o : Operation) (rows : List ResultColumnRow) : Option TypeKey :=
  d.findTypeByFields? (resultFields d.engine o.key.text rows).1 o (d.engine == .postgres)

/-- Result types do not matter, nor what else is known of the operation. -/
theorem rowsType?_congr {o' : Operation} (h : d.Frame d') (hkey : o'.key = o.key)
    (hrelated : o'.relatedType = o.relatedType) (rows : List ResultColumnRow) :
    rowsType? d' o' rows = rowsType? d o rows := by
  have hschema : o'.schema = o.schema := congrArg TypeKey.schema hkey
  have hname : o'.name = o.name := congrArg TypeKey.name hkey
  unfold rowsType? Domain.findTypeByFields? Domain.returnCandidates
  simp only [h.engine, h.naming, h.findType?, hkey, hschema, hname, hrelated]

theorem rowShape_several {rows : List ResultColumnRow} {returns : OperationReturn}
    (hseveral : 2 ≤ rows.length) (h : rowShape o rows d = (.ok returns, d')) :
    (∃ key, rowsType? d o rows = some key ∧ returns = .applicationType key (!o.singleResult)) ∨
      rowsType? d o rows = none ∧ ∃ key, returns = .customType key (!o.singleResult) := by
  have hlength : (resultFields d.engine o.key.text rows).1.length = rows.length := by
    rw [resultFields_fst, List.length_map]
  unfold rowShape at h
  split at h
  · rename_i single hsingle
    rw [hsingle] at hlength
    rw [← hlength] at hseveral
    cases Nat.lt_irrefl 1 hseveral
  · split at h
    · rename_i key hkey
      cases h
      exact .inl ⟨key, hkey, rfl⟩
    · rename_i hnone
      refine .inr ⟨hnone, ?_⟩
      unfold namedRowShape at h
      dsimp only at h
      split at h
      · cases h
        exact ⟨_, rfl⟩
      · cases h
        exact ⟨_, rfl⟩

/-- A routine with several output columns returns rows of the type that they are found to have the
shape of, else rows of a result type. -/
theorem operation_rows {row : RoutineRow} (he : d.engine = s.engine)
    (hseveral : 2 ≤ (s.resultColumnsOf row).length) (h : operation s row d = (.ok o, d')) :
    (∃ key, rowsType? d o (s.resultColumnsOf row) = some key ∧
        o.returns = .applicationType key (!o.singleResult)) ∨
      rowsType? d o (s.resultColumnsOf row) = none ∧
        ∃ key, o.returns = .customType key (!o.singleResult) := by
  unfold operation operationAbout at h
  obtain ⟨ps, d₁, hps, hrest⟩ := Build.bind_eq_ok.1 h
  obtain ⟨returns, d₂, hreturns, hlast⟩ := Build.bind_eq_ok.1 hrest
  cases hlast
  have hframe := (parameters_changes he hps).1.frame
  unfold returnShape at hreturns
  rw [if_neg] at hreturns
  · -- Parameters are compared with fields afterwards, which changes no more of the operation.
    obtain ⟨qs, hmatched, _⟩ := matchParameters_eq d'
      { unshaped row ps (Offline.related d row) with returns := returns }
    rw [hmatched, ← rowsType?_congr hframe rfl rfl]
    exact rowShape_several hseveral hreturns
  · intro hempty
    rw [List.isEmpty_iff.1 hempty] at hseveral
    cases hseveral

/-! ## Result types that were made for a routine -/

theorem mem_allUses {rows : List RoutineRow} {ops : List Operation} {u : Use}
    (h : u ∈ allUses s rows ops) :
    ∃ (j : Nat) (row : RoutineRow) (o : Operation),
      rows[j]? = some row ∧ ops[j]? = some o ∧ u ∈ uses s row o := by
  obtain ⟨us, hus, hu⟩ := List.mem_flatten.1 h
  obtain ⟨j, hj⟩ := List.mem_iff_getElem?.1 hus
  rw [List.getElem?_zipWith_eq_some] at hj
  obtain ⟨row, o, hrow, ho, rfl⟩ := hj
  exact ⟨j, row, o, hrow, ho, hu⟩

/-- A result type that the database has no type for was made for a routine: it has the columns of one
that returns it. -/
theorem exists_synthesized (h : (run (inspect s.catalog settings) executed start).result = .ok d)
    {r : ResultType} (hr : r ∈ d.resultTypes) (hmade : r.isCustomType = false) :
    ∃ (j : Nat) (row : RoutineRow) (o : Operation),
      (s.routineRows settings.excludedSchemas)[j]? = some row ∧ d.operations[j]? = some o ∧
        o.returns.customKey? = some r.key ∧ r.columnList = columnList (s.resultColumnsOf row) := by
  obtain ⟨_, huses⟩ := inspect_firstUses h
  obtain ⟨u, hu, hsettles⟩ := huses.settled r hr
  have hkey := key_of_firstUse? hu
  obtain ⟨j, row, o, hrow, ho, hmem⟩ := mem_allUses (List.mem_of_find?_eq_some hu)
  refine ⟨j, row, o, hrow, ho, ?_⟩
  cases u with
  | named key =>
      rw [hsettles.1] at hmade
      cases hmade
  | shaped key columns =>
      rcases List.mem_append.1 hmem with hparameter | hreturn
      · obtain ⟨_, _, hnamed⟩ := List.mem_map.1 hparameter
        cases hnamed
      · obtain ⟨key', hkey', hused⟩ := List.mem_map.1 hreturn
        have hsame : key' = key := by
          rw [← returnUse_key (s := s) row key', hused]
          rfl
        have hcolumns : columns = s.resultColumnsOf row := by
          unfold returnUse at hused
          split at hused
          · cases hused
          · cases hused
            rfl
        rw [hsame, Option.mem_toList] at hkey'
        exact ⟨hkey'.trans (congrArg some hkey), hcolumns ▸ hsettles.2⟩

/-! ## Whole tables -/

/-- The type of a loaded table is found under every key that is the same to the engine. -/
theorem findType?_loaded (htables : s.DistinctTables) (h : typeStage s settings start = (.ok (), d))
    {t : StoredTable} (ht : t ∈ s.included settings.excludedSchemas) {key : TypeKey}
    (hkey : s.engine.keysEqual t.row.key key = true) :
    d.findType? key = some (finalType s settings t.row) := by
  obtain ⟨hload, _⟩ := (typeStage_eq_ok (distinctRows htables _)).1 h
  have hkeys : ∀ u ∈ s.included settings.excludedSchemas,
      s.engine.keysEqual (finalType s settings u.row).key key = s.engine.keysEqual u.row.key key := by
    intro u hu
    obtain ⟨⟨ty, hty⟩, _⟩ := hload u.row (List.mem_map_of_mem hu)
    rw [finalType_key, loadedType_of_ok hty, (tableType_key hty).1]
  unfold Domain.findType?
  rw [typeStage_types htables h, (typeStage_blank h).1, find?_map_of_mem hkeys,
    CatalogSnapshot.find?_key htables (fun _ h => CatalogSnapshot.mem_included h) ht hkey]
  rfl

/-- The routine is about a table in its schema and returns all of its columns, in any order. -/
structure ReturnsWhole (s : CatalogSnapshot) (t : StoredTable) (r : StoredRoutine) (o : Operation) :
    Prop where
  schema : s.engine.namesEqual t.schema r.schema = true
  related : o.relatedType = some t.row.key
  columns : (columnList (s.resultColumnsOf r.row)).Perm
    (t.columns.map fun c => (c.name, c.nativeType))

/-- The fields stand for the columns in order, and each has its column's comment for attributes. -/
theorem mirrors_fields_reads {t : StoredTable} {ty : ApplicationType}
    (h : ty.Mirrors s.engine t) :
    List.Forall₂ (fun c (f : Field) => f.column = (c.name, c.nativeType) ∧
      f.attributes = (Attributes.parse c.description (qualifiedText t.row.fullName c.name)).1)
      t.columns ty.fields := by
  rw [← List.zipIdx_map_fst 1 t.columns, List.forall₂_map_left_iff]
  exact h.fields.imp fun p f hf => ⟨Prod.ext hf.name hf.nativeType, hf.attributes⟩

theorem mirrors_fields_column {t : StoredTable} {ty : ApplicationType}
    (h : ty.Mirrors s.engine t) :
    ty.fields.map Field.column = t.columns.map fun c => (c.name, c.nativeType) := by
  have hcolumns : List.Forall₂ (fun c (f : Field) => f.column = (c.name, c.nativeType)) t.columns
      ty.fields := (mirrors_fields_reads h).imp fun _ _ hf => hf.1
  have hmapped : List.Forall₂ (· = ·) (ty.fields.map Field.column)
      (t.columns.map fun c => (c.name, c.nativeType)) := by
    rw [List.forall₂_map_left_iff, List.forall₂_map_right_iff]
    exact hcolumns.flip
  rwa [List.forall₂_eq_eq_eq] at hmapped

/-- The type of a table is matched by all of its columns exactly when none is left out for its comment
alone. -/
theorem fieldsMatch_table_iff {style : NamingStyle} {caseSensitive : Bool} {owner : String}
    {t : StoredTable} {ty : ApplicationType} {rows : List ResultColumnRow}
    (hmirrors : ty.Mirrors s.engine t)
    (hcolumns : t.columns.Pairwise fun a b => Text.eqIgnoreAsciiCase a.name b.name = false)
    (hrows : (columnList rows).Perm (t.columns.map fun c => (c.name, c.nativeType))) :
    Domain.fieldsMatch ty (Domain.projection style (resultFields s.engine owner rows).1) style
        caseSensitive = true ↔ ∀ c ∈ t.columns, t.hides s.engine style c = false := by
  have hgiven : ((resultFields s.engine owner rows).1.map Field.column).Perm
      (ty.fields.map Field.column) := by
    have hcolumn : (resultFields s.engine owner rows).1.map Field.column = columnList rows :=
      resultFields_columns s.engine owner rows
    rw [mirrors_fields_column hmirrors, hcolumn]
    exact hrows
  have hdistinct : ty.fields.Pairwise fun f g => Text.eqIgnoreAsciiCase f.name g.name = false := by
    have hnames : (ty.fields.map Field.column).Pairwise fun a b =>
        Text.eqIgnoreAsciiCase a.1 b.1 = false := by
      rw [mirrors_fields_column hmirrors]
      exact List.pairwise_map.2 hcolumns
    exact List.pairwise_map.1 hnames
  have hfields : ∀ f ∈ ty.fields, f.isExcludedFromResults style =
      ((Field.plain s.engine f.column).isExcludedFromResults style ||
        f.attributes.any Attributes.searchVector) := by
    intro f hf
    obtain ⟨p, _, hreads⟩ := exists_of_forall₂ hmirrors.fields.flip hf
    exact hreads.isExcludedFromResults
  have hleft : ∀ g ∈ (resultFields s.engine owner rows).1, g.isExcludedFromResults style =
      (Field.plain s.engine g.column).isExcludedFromResults style :=
    fun g hg => resultField_isExcludedFromResults hg
  rw [Domain.fieldsMatch_whole_iff (fun c => (Field.plain s.engine c).isExcludedFromResults style)
    (fun f => f.attributes.any Attributes.searchVector) hleft hfields hgiven hdistinct]
  -- What is said of the fields is said of the columns that they read.
  have hreads := mirrors_fields_reads hmirrors
  constructor
  · intro hnone c hc
    obtain ⟨f, hf, hcolumn, hattributes⟩ := exists_of_forall₂ hreads hc
    unfold StoredTable.hides
    rw [← hcolumn, ← hattributes, Bool.and_eq_false_imp]
    intro hmarked
    rw [hnone f hf hmarked]
    rfl
  · intro hnone f hf hmarked
    obtain ⟨c, hc, hcolumn, hattributes⟩ := exists_of_forall₂ hreads.flip hf
    have hshows := hnone c hc
    unfold StoredTable.hides at hshows
    rw [← hcolumn, ← hattributes, hmarked, Bool.true_and, Bool.not_eq_false'] at hshows
    exact hshows

/-- A routine that returns whole rows of the table which it is about is found to return the table's
type, as many rows as its overrides say, exactly when no column of the table is left out of results for
its comment alone. No result type is made for it then: every one that the database has no type for has
the columns of another routine that returns it. -/
theorem whole_table_recognized (htables : s.DistinctTables)
    (h : (run (inspect s.catalog settings) executed start).result = .ok d) {t : StoredTable}
    (ht : t ∈ s.included settings.excludedSchemas)
    (hcolumns : t.columns.Pairwise fun a b => Text.eqIgnoreAsciiCase a.name b.name = false)
    (hseveral : 2 ≤ t.columns.length) {i : Nat} {r : StoredRoutine} {o : Operation}
    (hr : (s.loadedRoutines settings)[i]? = some r) (ho : d.operations[i]? = some o)
    (hwhole : ReturnsWhole s t r o) :
    (o.returns = .applicationType t.row.key (!o.singleResult) ↔
        ∀ c ∈ t.columns, t.hides s.engine d.naming c = false) ∧
      (o.returns = .applicationType t.row.key (!o.singleResult) →
        ∀ made ∈ d.resultTypes, made.isCustomType = false →
          ∃ j row o', j ≠ i ∧ (s.routineRows settings.excludedSchemas)[j]? = some row ∧
            d.operations[j]? = some o' ∧ o'.returns.customKey? = some made.key ∧
            made.columnList = columnList (s.resultColumnsOf row)) := by
  constructor
  · obtain ⟨d₀, htypes, _, hall⟩ := inspect_between h
    obtain ⟨d₁, d₂, hbefore, hloaded, hafter⟩ := forall₂_getElem? hall hr ho
    have hengine : d₁.engine = s.engine := hbefore.engine.trans (typeStage_blank htypes).1
    have hnaming : d.naming = d₁.naming :=
      hafter.naming.trans ((operation_growing r.row).of_run hloaded).1.naming
    -- The type of the table, and that it is the first to be compared.
    obtain ⟨hload, _⟩ := (typeStage_eq_ok (distinctRows htables _)).1 htypes
    obtain ⟨⟨ty, hty⟩, _⟩ := hload t.row (List.mem_map_of_mem ht)
    have hnames : t.columns.Pairwise fun a b => s.engine.namesEqual a.name b.name = false :=
      hcolumns.imp fun hother => s.engine.namesEqual_eq_false hother
    have hmirrors : (finalType s settings t.row).Mirrors s.engine t :=
      finalType_mirrors htables (CatalogSnapshot.mem_included ht) hnames hty
    have hkey : s.engine.keysEqual t.row.key ⟨o.schema, t.row.key.name⟩ = true := by
      rw [(operation_readFrom hloaded).schema]
      exact Bool.and_eq_true_iff.2 ⟨hwhole.schema, s.engine.namesEqual_refl t.name⟩
    have hfound := (hbefore.findType? _).trans (findType?_loaded htables htypes ht hkey)
    have hmatch : rowsType? d₁ o (s.resultColumnsOf r.row) = some t.row.key ↔
        ∀ c ∈ t.columns, t.hides s.engine d.naming c = false := by
      unfold rowsType?
      rw [← hmirrors.key, Domain.findTypeByFields?_related hwhole.related hfound, hengine, hnaming,
        fieldsMatch_table_iff hmirrors hcolumns hwhole.columns]
    rw [← hmatch]
    have hrows : 2 ≤ (s.resultColumnsOf r.row).length := by
      have hlength := hwhole.columns.length_eq
      unfold columnList at hlength
      rw [List.length_map, List.length_map] at hlength
      rwa [hlength]
    rcases operation_rows hengine hrows hloaded with ⟨key, hfind, hreturns⟩ | ⟨hfind, key, hreturns⟩
    · rw [hfind, hreturns]
      constructor
      · intro hsame
        exact congrArg OperationReturn.typeKey hsame
      · intro hsame
        rw [Option.some.inj hsame]
    · rw [hfind, hreturns]
      exact iff_of_false nofun nofun
  · intro hreturns made hmade hcustom
    obtain ⟨j, row, o', hrow, ho', hmakes, hlist⟩ := exists_synthesized h hmade hcustom
    refine ⟨j, row, o', ?_, hrow, ho', hmakes, hlist⟩
    rintro rfl
    cases ho.symm.trans ho'
    rw [hreturns] at hmakes
    cases hmakes

/-- A function that lists the rows of a table, with its columns. -/
def listing (table : String) (columns : List ResultColumnRow) : StoredRoutine :=
  ⟨"public", table ++ "_list", none, .function, some "record", true, none,
    some ("\x7b\"applicationtype\": \"" ++ table ++ "\"\x7d"), [], columns⟩

/-- Documents whose keywords are marked for search by a comment, and their authors. Functions list the
rows of either table, with the columns in another order. -/
def library : CatalogSnapshot where
  engine := .postgres
  tables :=
    [⟨"public", "document", none,
      [⟨"document_id", "integer", none, none, none, false, true, false, none, none⟩,
       ⟨"title", "text", none, none, none, false, false, false, none, none⟩,
       ⟨"keywords", "text", none, none, none, true, false, false, none,
        some "\x7b\"search_vector\": true\x7d"⟩],
      [⟨"document_pkey", .primary, ["document_id"]⟩], []⟩,
     ⟨"public", "author", none,
      [⟨"author_id", "integer", none, none, none, false, true, false, none, none⟩,
       ⟨"name", "text", none, none, none, false, false, false, none, none⟩,
       ⟨"is_deleted", "boolean", none, none, none, false, false, false, none, none⟩],
      [⟨"author_pkey", .primary, ["author_id"]⟩], []⟩]
  routines :=
    [listing "document"
      [⟨"title", 1, "text", true, none⟩, ⟨"keywords", 2, "text", true, none⟩,
       ⟨"document_id", 3, "integer", true, none⟩],
     listing "author"
      [⟨"name", 1, "text", true, none⟩, ⟨"is_deleted", 2, "boolean", true, none⟩,
       ⟨"author_id", 3, "integer", true, none⟩]]
  userTypes := []

/-- The authors are recognized, although a column of theirs is left out on both sides. -/
theorem authors_recognized :
    ∃ d, (run (inspect library.catalog .standard) [] default).result = .ok d ∧
      ∃ o, d.operations[1]? = some o ∧ o.returns = .applicationType ⟨"public", "author"⟩ true ∧
        ∀ made ∈ d.resultTypes, made.isCustomType = false → ∃ j o', j ≠ 1 ∧
          d.operations[j]? = some o' ∧ o'.returns.customKey? = some made.key := by
  obtain ⟨d, hd, hstyle, o, ho, hrelated, hsingle⟩ :
      ∃ d, (run (inspect library.catalog .standard) [] default).result = .ok d ∧
        d.naming = .snakeCase ∧ ∃ o ∈ d.operations[1]?,
          o.relatedType = some ⟨"public", "author"⟩ ∧ o.singleResult = false := by
    decide +kernel
  have hwhole : ReturnsWhole library library.tables[1] library.routines[1] o :=
    ⟨by decide +kernel, hrelated, by decide +kernel⟩
  have hloaded : (library.loadedRoutines .standard)[1]? = some library.routines[1] := by
    decide +kernel
  obtain ⟨hreturns, hmade⟩ := whole_table_recognized (by decide +kernel) hd
    (t := library.tables[1]) (by decide +kernel) (by decide +kernel) (by decide +kernel) hloaded ho
    hwhole
  have hfound : o.returns = .applicationType ⟨"public", "author"⟩ (!o.singleResult) := by
    refine hreturns.2 ?_
    rw [hstyle]
    decide +kernel
  refine ⟨d, hd, o, ho, ?_, fun made hmem hcustom => ?_⟩
  · rw [hfound, hsingle]
    rfl
  · obtain ⟨j, _, o', hj, _, ho', hmakes, _⟩ := hmade hfound made hmem hcustom
    exact ⟨j, o', hj, ho', hmakes⟩

/-- The documents are not recognized: the rows have the keywords, and the table is compared without
them. -/
theorem documents_not_recognized :
    ∃ d, (run (inspect library.catalog .standard) [] default).result = .ok d ∧
      library.DistinctTables ∧ library.tables[0] ∈ library.included [] ∧
      (library.loadedRoutines .standard)[0]? = some library.routines[0] ∧
      (library.tables[0].columns.Pairwise fun a b => Text.eqIgnoreAsciiCase a.name b.name = false) ∧
      ∃ o, d.operations[0]? = some o ∧
        ReturnsWhole library library.tables[0] library.routines[0] o ∧
        ∃ made ∈ d.resultTypes, made.isCustomType = false ∧
          o.returns = .customType made.key true := by
  obtain ⟨d, hd, o, ho, hrelated, made, hmade, hcustom, hreturns⟩ :
      ∃ d, (run (inspect library.catalog .standard) [] default).result = .ok d ∧
        ∃ o ∈ d.operations[0]?, o.relatedType = some ⟨"public", "document"⟩ ∧
          ∃ made ∈ d.resultTypes, made.isCustomType = false ∧
            o.returns = .customType made.key true := by
    decide +kernel
  have hwhole : ReturnsWhole library library.tables[0] library.routines[0] o :=
    ⟨by decide +kernel, hrelated, by decide +kernel⟩
  exact ⟨d, hd, by decide +kernel, by decide +kernel, by decide +kernel, by decide +kernel, o, ho,
    hwhole, made, hmade, hcustom, hreturns⟩

end Offline

end SchemaModel
