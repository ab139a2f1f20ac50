import SchemaModel.Proofs.Inspection.Closure
import SchemaModel.Proofs.Inspection.FirstUse
import SchemaModel.Proofs.Inspection.Growth
import SchemaModel.Proofs.Inspection.TableFields

/-!
# `SchemaModel.Proofs.Inspection.Spelling` — names are spelled as they are declared

Much in a database is found by name, and a name need not be written as it was declared. What an
inspection writes down is the name of what it found, so every name in a domain is that of a table,
a column, a routine or a type of the snapshot, letter by letter.

## Contents
- `SpelledAs`: the names of a domain are those that a snapshot declares.
- `typeStage_spelled`: types and fields are named like their tables and columns.
- `Spells`: a step adds composites under declared names only. It is kept by sequences; one lemma for
  each stage of loading an operation.
- `inspect_spelled`: what an inspection gives is spelled as it was declared.
-/

namespace SchemaModel

open Inspection

/-- The columns of the table that a row names, as they are declared. -/
def CatalogSnapshot.columnNames (s : CatalogSnapshot) (row : TableRow) : List String :=
  (s.ofTable row StoredTable.columns).map StoredColumn.name

namespace Domain

/-- Every composite among the result types goes by the name of a user-defined type. -/
def CompositesOf (d : Domain) (s : CatalogSnapshot) : Prop :=
  ∀ r ∈ d.resultTypes, r.isCustomType = true → ∃ u ∈ s.userTypes, r.key = u.key

/-- Types, their fields, operations and composites go by the names that the snapshot declares, and
whatever else names one of them does so by that name. -/
structure SpelledAs (d : Domain) (s : CatalogSnapshot) : Prop where
  types : ∀ t ∈ d.types, ∃ table ∈ s.tables,
    t.key = table.row.key ∧ t.fields.map Field.name = s.columnNames table.row
  operations : ∀ o ∈ d.operations, ∃ r ∈ s.routines, o.key = ⟨r.schema, r.name⟩
  composites : d.CompositesOf s
  closed : d.Closed

end Domain

namespace Offline

variable {s : CatalogSnapshot} {settings : Settings} {d d' start : Domain} {α β : Type}

/-! ## Tables -/

/-- Flags and keys are set on fields that keep their names. -/
theorem tableType_signature {row : TableRow} {t : ApplicationType} (h : tableType s row = .ok t) :
    Domain.typeSignature t = (row.key, s.columnNames row) := by
  refine Prod.ext (tableType_key h).1 ?_
  show t.fields.map Field.name = s.columnNames row
  rw [(applyConstraints_ok h).1, markKeys_names, applyFlags_names]
  unfold CatalogSnapshot.columnNames CatalogSnapshot.ofTable
  cases s.table? row with
  | none => rfl
  | some stored => exact columnFields_names _ stored

/-- Foreign keys are followed without a change to any name. -/
theorem typeStage_spelled (h : typeStage s settings start = (.ok (), d)) :
    ∀ t ∈ d.types, ∃ table ∈ s.tables,
      t.key = table.row.key ∧ t.fields.map Field.name = s.columnNames table.row := by
  unfold typeStage at h
  rw [Build.act_bind] at h
  obtain ⟨pending, d₁, htables, hrest⟩ := Build.bind_eq_ok.1 h
  obtain ⟨_, ts, hts, rfl⟩ := tableStage_eq_ok.1 htables
  intro t ht
  have hsignature : Domain.typeSignature t ∈ d.types.map Domain.typeSignature :=
    List.mem_map_of_mem ht
  rw [(referenceStage_retyped hrest).signatures] at hsignature
  obtain ⟨t₀, ht₀, hsame⟩ := List.mem_map.1 hsignature
  obtain ⟨row, hrow, hloaded⟩ := exists_of_forall₂ hts.flip ht₀
  obtain ⟨table, htable, rfl⟩ := List.mem_map.1 hrow
  rw [tableType_signature hloaded] at hsame
  obtain ⟨hkey, hnames⟩ := Prod.mk.inj hsame
  exact ⟨table, (List.mem_filter.1 htable).1, hkey.symm, hnames.symm⟩

/-! ## Composites -/

/-- Whatever the step comes to, the composites of the domain keep to declared names. -/
def Spells (s : CatalogSnapshot) (m : Build α) : Prop :=
  ∀ d : Domain, d.CompositesOf s → (m d).2.CompositesOf s

namespace Spells

theorem still {m : Build α} (h : ∀ d, (m d).2 = d) : Spells s m := by
  intro d hd
  rw [h d]
  exact hd

theorem bind {m : Build α} {k : α → Build β} (hm : Spells s m) (hk : ∀ a, Spells s (k a)) :
    Spells s (m >>= k) := by
  intro d hd
  have hfirst := hm d hd
  rcases hrun : m d with ⟨e | a, d₁⟩
  · rw [hrun] at hfirst
    rw [Build.bind_error hrun]
    exact hfirst
  · rw [hrun] at hfirst
    rw [Build.bind_ok hrun]
    exact hk a d₁ hfirst

end Spells

/-- Changes that leave the key and the origin of a result type alone do not matter. -/
theorem compositesOf_modify {key : TypeKey} {change : ResultType → ResultType}
    (hd : d.CompositesOf s)
    (h : ∀ r, (change r).key = r.key ∧ (change r).isCustomType = r.isCustomType) :
    (d.modifyResultType key change).CompositesOf s := by
  intro r hr hcustom
  rcases mem_modifyFirst hr with hold | ⟨r₀, hr₀, rfl⟩
  · exact hd r hold hcustom
  · obtain ⟨hkey, hsame⟩ := h r₀
    rw [hkey]
    exact hd r₀ hr₀ (hsame ▸ hcustom)

theorem compositesOf_addOperation {key user : TypeKey} (hd : d.CompositesOf s) :
    (d.modifyResultType key fun r => r.addOperation user).CompositesOf s := by
  refine compositesOf_modify hd fun r => ⟨r.addOperation_key user, ?_⟩
  obtain ⟨users, hsame⟩ := r.addOperation_eq user
  rw [hsame]

theorem compositesOf_add {new : ResultType} (hd : d.CompositesOf s)
    (hnew : new.isCustomType = true → ∃ u ∈ s.userTypes, new.key = u.key) :
    Domain.CompositesOf { d with resultTypes := d.resultTypes ++ [new] } s := by
  intro r hr hcustom
  rcases List.mem_append.1 hr with hold | hlast
  · exact hd r hold hcustom
  · rw [List.mem_singleton.1 hlast] at hcustom ⊢
    exact hnew hcustom

theorem compositesOf_widened (key : TypeKey) (about : Option TypeKey) (hd : d.CompositesOf s) :
    (widened d key about).CompositesOf s := by
  cases about with
  | none => exact hd
  | some source =>
      show (d.widenResult key source).1.CompositesOf s
      rcases d.widenResult_cases key source with ⟨_, hsame⟩ | ⟨t, _, _, _, hsame⟩
      · rw [hsame]
        exact hd
      · rw [hsame]
        exact compositesOf_modify hd fun _ => ⟨rfl, rfl⟩

theorem userShape_spells (key user : TypeKey) : Spells s (userShape s key user) := by
  intro d hd
  unfold userShape
  cases d.findResultType? key with
  | some existing => exact compositesOf_addOperation hd
  | none =>
      dsimp only
      cases hrow : s.userType? key.schema key.name with
      | none => exact hd
      | some row =>
          dsimp only
          cases row.kind with
          | composite =>
              exact compositesOf_add hd fun _ => ⟨row, List.mem_of_find?_eq_some hrow, rfl⟩
          | domain => exact hd
          | enum => exact hd

theorem parameter_spells (op : TypeKey) (row : ParameterRow) : Spells s (parameter s op row) := by
  unfold parameter
  by_cases huser : row.isUserDefined
  · rw [if_pos huser]
    refine (userShape_spells _ op).bind fun shape => ?_
    cases shape <;> exact .still fun _ => rfl
  · rw [if_neg huser]
    exact .still fun _ => rfl

theorem parameters_spells (op : TypeKey) (rows : List ParameterRow) :
    Spells s (parameters s op rows) := by
  induction rows with
  | nil => exact .still fun _ => rfl
  | cons row rest ih =>
      exact (parameter_spells op row).bind fun _ => ih.bind fun _ => .still fun _ => rfl

theorem rowShape_spells (o : Operation) (rows : List ResultColumnRow) :
    Spells s (rowShape o rows) := by
  intro d hd
  unfold rowShape
  split
  · exact hd
  split
  · exact hd
  · unfold namedRowShape
    dsimp only
    cases d.findResultType? (rowTypeKey d o) with
    | some existing => exact compositesOf_addOperation hd
    | none =>
        -- A shape made of columns is no composite.
        exact compositesOf_widened _ o.relatedType (compositesOf_add hd nofun)

theorem declaredShape_spells (o : Operation) (row : RoutineRow) :
    Spells s (declaredShape s o row) := by
  intro d hd
  unfold declaredShape
  split
  · exact hd
  dsimp only
  split
  · exact hd
  split
  · exact hd
  split
  · exact hd
  · refine (userShape_spells _ o.key).bind (fun shape => ?_) d hd
    cases shape with
    | rows key => exact fun d hd => compositesOf_widened key o.relatedType hd
    | value v => exact .still fun _ => rfl

theorem operation_spells (row : RoutineRow) : Spells s (operation s row) := by
  intro d hd
  unfold operation operationAbout
  refine (parameters_spells _ _).bind (fun ps => Spells.bind ?_ fun _ => .still fun _ => rfl) d hd
  unfold returnShape
  split
  · exact declaredShape_spells _ row
  · exact rowShape_spells _ _

theorem operationStage_spells (rows : List RoutineRow) : Spells s (operationStage s rows) := by
  induction rows with
  | nil => exact .still fun _ => rfl
  | cons row rest ih =>
      refine (operation_spells row).bind fun o => ?_
      exact Spells.bind (fun d hd => hd) fun _ => ih

/-! ## Whole inspections -/

/-- Where there are neither operations nor result types, only types can name anything. -/
theorem closed_of_types (htyped : d.TypesClosed) (hoperations : d.operations = [])
    (hresults : d.resultTypes = []) : d.Closed where
  toTypesClosed := htyped
  resultReferences := by
    intro r hr
    rw [hresults] at hr
    cases hr
  resultRelated := by
    intro r hr
    rw [hresults] at hr
    cases hr
  operations := by
    intro o ho
    rw [hoperations] at ho
    cases ho

/-- Whatever the snapshot and the settings, what an inspection gives is spelled as declared. -/
theorem inspect_spelled {executed : List String}
    (h : (run (inspect s.catalog settings) executed start).result = .ok d) : d.SpelledAs s := by
  obtain ⟨hfollows, _⟩ := inspect_firstUses h
  obtain ⟨d₀, htypes, hstage⟩ := inspect_eq_ok.1 h
  obtain ⟨hengine, hoperations, hresults⟩ := typeStage_blank htypes
  have hgrows := operationStage_grows (s.loadedRoutines settings) hstage
  refine ⟨?_, ?_, ?_, ?_⟩
  · rw [hgrows.types]
    exact typeStage_spelled htypes
  · intro o ho
    obtain ⟨row, hrow, hfollows⟩ := exists_of_forall₂ hfollows.flip ho
    obtain ⟨r, hr, rfl⟩ := List.mem_map.1 hrow
    exact ⟨r, (List.mem_filter.1 hr).1, hfollows.key⟩
  · -- The second stage starts without any result types.
    have hnone : d₀.CompositesOf s := by
      intro r hr
      rw [hresults] at hr
      cases hr
    have hcomposites := operationStage_spells (s.routineRows settings.excludedSchemas) d₀ hnone
    rw [hstage] at hcomposites
    exact hcomposites
  · have hclosed : d₀.Closed :=
      closed_of_types (typeStage_closed htypes).1 hoperations hresults
    exact operationStage_closed hengine hclosed hstage

end Offline

end SchemaModel
