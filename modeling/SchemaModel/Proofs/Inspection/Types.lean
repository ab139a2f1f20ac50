import SchemaModel.Proofs.Domain.LookUp
import SchemaModel.Proofs.Inspection.Offline

/-!
# `SchemaModel.Proofs.Inspection.Types` — what the tables leave behind

The first stage starts from a blank domain and fills in its types. Tables come first, without any
references; then each foreign key points one field at another. The keys of types and the names of
fields never change on the way, so what was canonical once stays so.

## Contents
- `Domain.TypesClosed`: types point at canonical fields and list their own fields in constraints.
- **Single tables.** `tableType_plain`: the type of a table points at nothing yet.
- **References.** `reference_cases`: what one foreign key does to the domain; `reference_closed`: it
  keeps the types closed.
- `typeStage_closed`: the types are closed after the stage, and the rest of the domain is blank.
  `typeStage_blank`: so it has neither operations nor result types.
-/

namespace SchemaModel

open Inspection

/-! ## Closed types -/

/-- Every name that a key constraint lists is that of a field. -/
def ApplicationType.NamesFields (t : ApplicationType) : Prop :=
  ∀ c ∈ t.constraints, ∀ name ∈ c.fields, name ∈ t.fields.map Field.name

namespace Domain

/-- The types point at canonical fields, and their constraints list their own fields. -/
structure TypesClosed (d : Domain) : Prop where
  references : ∀ t ∈ d.types, ∀ f ∈ t.fields, ∀ reference, f.references = some reference →
    d.LoadsField reference
  constraints : ∀ t ∈ d.types, t.NamesFields

/-- The key of a type with the names of its fields. -/
def typeSignature (t : ApplicationType) : TypeKey × List String := (t.key, t.fields.map Field.name)

/-- Only the keys of types and the names of fields matter for which references are canonical. -/
theorem loadsField_iff {d : Domain} {reference : FieldReference} :
    d.LoadsField reference ↔
      ∃ names,
        (d.types.map typeSignature).find? (fun sig => d.engine.keysEqual sig.1 reference.typeKey) =
          some (reference.typeKey, names) ∧
        reference.field ∈ names := by
  have hfind : (d.types.map typeSignature).find?
      (fun sig => d.engine.keysEqual sig.1 reference.typeKey) =
        (d.findType? reference.typeKey).map typeSignature := List.find?_map
  rw [hfind]
  unfold LoadsField
  constructor
  · rintro ⟨t, ht, hkey, f, hf, hname⟩
    refine ⟨t.fields.map Field.name, ?_, List.mem_map.2 ⟨f, hf, hname⟩⟩
    rw [ht, ← hkey]
    rfl
  · rintro ⟨names, ht, hname⟩
    obtain ⟨t, htype, hsig⟩ := Option.map_eq_some_iff.1 ht
    obtain ⟨hkey, hnames⟩ := Prod.mk.inj hsig
    rw [← hnames] at hname
    obtain ⟨f, hf, hfield⟩ := List.mem_map.1 hname
    exact ⟨t, htype, hkey, f, hf, hfield⟩

end Domain

namespace Offline

variable {s : CatalogSnapshot} {settings : Settings} {d d' : Domain}

/-! ## Single tables -/

theorem modifyField_names {engine : Engine} {fields : List Field} {name : String}
    {change : Field → Field} (h : ∀ f, (change f).name = f.name) :
    (modifyField engine fields name change).map Field.name = fields.map Field.name :=
  map_modifyFirst _ _ _ h fields

theorem markKeys_names (engine : Engine) (fields : List Field) (columns : List String) :
    (markKeys engine fields columns).map Field.name = fields.map Field.name := by
  unfold markKeys
  induction columns generalizing fields with
  | nil => rfl
  | cons column rest ih =>
      rw [List.foldl_cons, ih]
      exact modifyField_names fun _ => rfl

section Laws

variable {engine : Engine} {fields : List Field} {P : Field → Prop}

/-- What a change keeps of a field stays true of all of them when one is changed. -/
theorem forall_modifyField {name : String} {change : Field → Field}
    (hchange : ∀ f, P f → P (change f)) (h : ∀ f ∈ fields, P f) :
    ∀ f ∈ modifyField engine fields name change, P f := by
  intro f hf
  rcases mem_modifyFirst hf with hold | ⟨g, hg, rfl⟩
  · exact h f hold
  · exact hchange g (h g hg)

theorem forall_markKeys {columns : List String} (hmark : ∀ f, P f → P { f with isKey := true })
    (h : ∀ f ∈ fields, P f) : ∀ f ∈ markKeys engine fields columns, P f := by
  unfold markKeys
  induction columns generalizing fields with
  | nil => exact h
  | cons column rest ih => exact ih (forall_modifyField hmark h)

theorem forall_applyFlags {table : String} {rows : List ColumnFlagsRow}
    (hflags : ∀ row f, P f → P (withFlags engine row f)) (h : ∀ f ∈ fields, P f) :
    ∀ f ∈ (applyFlags engine table fields rows).1, P f := by
  induction rows generalizing fields with
  | nil => exact h
  | cons row rest ih =>
      unfold applyFlags
      split
      · exact ih h
      · exact ih (forall_modifyField (hflags row) h)

end Laws

theorem columnFields_fst (engine : Engine) (table : String) (rows : List ColumnRow) :
    (columnFields engine table rows).1 = rows.map fun row => (columnField engine table row).1 :=
  List.map_map

theorem columnFields_plain {engine : Engine} {table : String} {rows : List ColumnRow} :
    ∀ f ∈ (columnFields engine table rows).1, f.references = none := by
  intro f hf
  rw [columnFields_fst, List.mem_map] at hf
  obtain ⟨row, _, rfl⟩ := hf
  rfl

theorem constraintNames_mem {engine : Engine} {table constraint : String} {fields : List Field}
    {columns names : List String}
    (h : constraintNames engine table constraint fields columns = .ok names) :
    ∀ name ∈ names, name ∈ fields.map Field.name := by
  induction columns generalizing names with
  | nil =>
      cases h
      intro name hname
      cases hname
  | cons column rest ih =>
      unfold constraintNames at h
      split at h
      · cases h
      rename_i f hf
      obtain ⟨more, hrest, rfl⟩ := Outcome.map_eq_ok.1 h
      intro name hname
      rcases List.mem_cons.1 hname with rfl | hmore
      · exact List.mem_map.2 ⟨f, List.mem_of_find?_eq_some hf, rfl⟩
      · exact ih hrest name hmore

/-- What holds of a table's type while its key constraints are added. -/
structure Plain (t : ApplicationType) : Prop where
  references : ∀ f ∈ t.fields, f.references = none
  constraints : t.NamesFields

theorem applyConstraint_plain {engine : Engine} {table : String} {t t' : ApplicationType}
    {row : KeyConstraintRow} (ht : Plain t) (h : applyConstraint engine table t row = .ok t') :
    Plain t' := by
  obtain ⟨names, hnames, rfl⟩ := Outcome.map_eq_ok.1 h
  have hsame : (if row.kind = .primary then markKeys engine t.fields row.columns
      else t.fields).map Field.name = t.fields.map Field.name := by
    split
    · exact markKeys_names _ _ _
    · rfl
  constructor
  · dsimp only
    split
    · exact forall_markKeys (fun _ hf => hf) ht.references
    · exact ht.references
  · unfold ApplicationType.NamesFields
    dsimp only
    rw [hsame]
    intro c hc name hname
    rcases List.mem_append.1 hc with hold | hnew
    · exact ht.constraints c hold name hname
    · rw [List.mem_singleton.1 hnew] at hname
      exact constraintNames_mem hnames name hname

theorem applyConstraints_plain {engine : Engine} {table : String} {t t' : ApplicationType}
    {rows : List KeyConstraintRow} (ht : Plain t)
    (h : applyConstraints engine table t rows = .ok t') : Plain t' := by
  induction rows generalizing t with
  | nil =>
      cases h
      exact ht
  | cons row rest ih =>
      unfold applyConstraints at h
      split at h
      · rename_i t₁ h₁
        exact ih (applyConstraint_plain ht h₁) h
      · cases h

/-- The type of a table points at nothing and lists its own fields in its constraints. -/
theorem tableType_plain {row : TableRow} {t : ApplicationType} (h : tableType s row = .ok t) :
    Plain t := by
  refine applyConstraints_plain ⟨?_, ?_⟩ h
  · exact forall_applyFlags (fun _ _ hf => hf) columnFields_plain
  · intro c hc
    cases hc

/-! ## References -/

/-- A foreign key is passed over, or points one field of one type at a canonical field. -/
theorem reference_cases {owner : TypeKey} {fk : ForeignKeyRow}
    (h : reference owner fk d = (.ok (), d')) :
    d' = d ∨ ∃ target, d.LoadsField target ∧
      d' = d.modifyType owner fun t =>
        { t with fields := modifyField d.engine t.fields fk.column fun f =>
            { f with references := some target } } := by
  unfold reference resolveForeignKey at h
  dsimp only at h
  cases htarget : d.findType? ⟨fk.refSchema, fk.refTable⟩ with
  | none =>
      simp only [htarget] at h
      cases h
      exact Or.inl rfl
  | some target =>
      simp only [htarget] at h
      cases hfield : findField? d.engine target.fields fk.refColumn with
      | none =>
          simp only [hfield] at h
          cases h
      | some field =>
          simp only [hfield] at h
          cases hown : (d.findType? owner).bind fun t => findField? d.engine t.fields fk.column with
          | none =>
              simp only [hown] at h
              cases h
          | some own =>
              simp only [hown] at h
              cases h
              refine Or.inr ⟨⟨target.key, field.name⟩, ?_, rfl⟩
              exact ⟨target, Domain.findType?_canonical htarget, rfl, field,
                List.mem_of_find?_eq_some hfield, rfl⟩

theorem pointAt_names (engine : Engine) (fields : List Field) (name : String)
    (target : FieldReference) :
    (modifyField engine fields name fun f => { f with references := some target }).map Field.name =
      fields.map Field.name :=
  modifyField_names fun _ => rfl

/-- The two domains differ in their types at most, and there neither in keys nor in the names of
fields. -/
structure Retyped (d d' : Domain) : Prop where
  rest : d' = { d with types := d'.types }
  signatures : d'.types.map Domain.typeSignature = d.types.map Domain.typeSignature

theorem Retyped.loadsField (h : Retyped d d') {target : FieldReference}
    (ht : d.LoadsField target) : d'.LoadsField target := by
  rw [Domain.loadsField_iff] at ht ⊢
  have he : d'.engine = d.engine := by rw [h.rest]
  rw [h.signatures, he]
  exact ht

theorem reference_retyped {owner : TypeKey} {fk : ForeignKeyRow}
    (h : reference owner fk d = (.ok (), d')) : Retyped d d' := by
  rcases reference_cases h with rfl | ⟨target, _, rfl⟩
  · exact ⟨rfl, rfl⟩
  · refine ⟨rfl, map_modifyFirst _ _ _ ?_ _⟩
    intro t
    exact congrArg (Prod.mk t.key) (pointAt_names _ _ _ _)

theorem reference_closed {owner : TypeKey} {fk : ForeignKeyRow} (hd : d.TypesClosed)
    (h : reference owner fk d = (.ok (), d')) : d'.TypesClosed := by
  have hretyped := reference_retyped h
  rcases reference_cases h with rfl | ⟨target, htarget, rfl⟩
  · exact hd
  constructor
  · intro t ht f hf found hfound
    apply hretyped.loadsField
    rcases mem_modifyFirst ht with hold | ⟨t₀, ht₀, rfl⟩
    · exact hd.references t hold f hf found hfound
    · rcases mem_modifyFirst hf with hold | ⟨f₀, _, rfl⟩
      · exact hd.references t₀ ht₀ f hold found hfound
      · cases hfound
        exact htarget
  · intro t ht
    rcases mem_modifyFirst ht with hold | ⟨t₀, ht₀, rfl⟩
    · exact hd.constraints t hold
    · unfold ApplicationType.NamesFields
      dsimp only
      rw [pointAt_names]
      exact hd.constraints t₀ ht₀

theorem Retyped.refl (d : Domain) : Retyped d d := ⟨rfl, rfl⟩

theorem Retyped.trans {d'' : Domain} (h : Retyped d d') (h' : Retyped d' d'') : Retyped d d'' where
  rest := by
    rw [h'.rest, h.rest]
  signatures := h'.signatures.trans h.signatures

theorem references_retyped {owner : TypeKey} {fks : List ForeignKeyRow}
    (h : references owner fks d = (.ok (), d')) : Retyped d d' := by
  induction fks generalizing d with
  | nil =>
      obtain ⟨_, rfl⟩ := Build.pure_eq_ok.1 h
      exact .refl d'
  | cons fk rest ih =>
      obtain ⟨_, d₁, hfirst, hrest⟩ := Build.bind_eq_ok.1 h
      exact (reference_retyped hfirst).trans (ih hrest)

theorem referenceStage_retyped {pending : List (TypeKey × List ForeignKeyRow)}
    (h : referenceStage pending d = (.ok (), d')) : Retyped d d' := by
  induction pending generalizing d with
  | nil =>
      obtain ⟨_, rfl⟩ := Build.pure_eq_ok.1 h
      exact .refl d'
  | cons first rest ih =>
      obtain ⟨_, d₁, hfirst, hrest⟩ := Build.bind_eq_ok.1 h
      exact (references_retyped hfirst).trans (ih hrest)

theorem references_run {owner : TypeKey} {fks : List ForeignKeyRow} (hd : d.TypesClosed)
    (h : references owner fks d = (.ok (), d')) :
    d'.TypesClosed ∧ d' = { d with types := d'.types } := by
  induction fks generalizing d with
  | nil =>
      obtain ⟨_, rfl⟩ := Build.pure_eq_ok.1 h
      exact ⟨hd, rfl⟩
  | cons fk rest ih =>
      obtain ⟨_, d₁, hfirst, hrest⟩ := Build.bind_eq_ok.1 h
      obtain ⟨hclosed, hsame⟩ := ih (reference_closed hd hfirst) hrest
      refine ⟨hclosed, hsame.trans ?_⟩
      rw [(reference_retyped hfirst).rest]

theorem referenceStage_run {pending : List (TypeKey × List ForeignKeyRow)} (hd : d.TypesClosed)
    (h : referenceStage pending d = (.ok (), d')) :
    d'.TypesClosed ∧ d' = { d with types := d'.types } := by
  induction pending generalizing d with
  | nil =>
      obtain ⟨_, rfl⟩ := Build.pure_eq_ok.1 h
      exact ⟨hd, rfl⟩
  | cons first rest ih =>
      obtain ⟨_, d₁, hfirst, hrest⟩ := Build.bind_eq_ok.1 h
      obtain ⟨hclosed₁, hsame₁⟩ := references_run hd hfirst
      obtain ⟨hclosed, hsame⟩ := ih hclosed₁ hrest
      refine ⟨hclosed, hsame.trans ?_⟩
      rw [hsame₁]

/-! ## The stage -/

theorem tableStage_run {rows : List TableRow} {pending : List (TypeKey × List ForeignKeyRow)}
    (hd : ∀ t ∈ d.types, Plain t) (h : tableStage s rows d = (.ok pending, d')) :
    (∀ t ∈ d'.types, Plain t) ∧ d' = { d with types := d'.types } := by
  induction rows generalizing d pending with
  | nil =>
      obtain ⟨_, rfl⟩ := Build.pure_eq_ok.1 h
      exact ⟨hd, rfl⟩
  | cons row rest ih =>
      obtain ⟨t, d₁, ht, hrest⟩ := Build.bind_eq_ok.1 h
      obtain ⟨htype, rfl⟩ := Build.outcome_eq_ok.1 ht
      rw [Build.act_bind] at hrest
      obtain ⟨more, d₂, hmore, hlast⟩ := Build.bind_eq_ok.1 hrest
      obtain ⟨_, rfl⟩ := Build.pure_eq_ok.1 hlast
      refine ih (d := { d₁ with types := d₁.types ++ [t] }) ?_ hmore
      intro t' ht'
      rcases List.mem_append.1 ht' with hold | hnew
      · exact hd t' hold
      · rw [List.mem_singleton.1 hnew]
        exact tableType_plain htype

/-- The first stage gives closed types, in a domain that is blank otherwise. -/
theorem typeStage_closed {start : Domain} (h : typeStage s settings start = (.ok (), d)) :
    d.TypesClosed ∧ d = { blankDomain s.engine settings with types := d.types } := by
  unfold typeStage at h
  rw [Build.act_bind] at h
  obtain ⟨pending, d₁, htables, hrest⟩ := Build.bind_eq_ok.1 h
  obtain ⟨hplain, hsame₁⟩ := tableStage_run (fun t ht => by cases ht) htables
  have hclosed : d₁.TypesClosed := by
    constructor
    · intro t ht f hf target htarget
      rw [(hplain t ht).references f hf] at htarget
      cases htarget
    · intro t ht
      exact (hplain t ht).constraints
  obtain ⟨hend, hsame⟩ := referenceStage_run hclosed hrest
  refine ⟨hend, hsame.trans ?_⟩
  rw [hsame₁]

/-- The first stage leaves neither operations nor result types. -/
theorem typeStage_blank {start : Domain} (h : typeStage s settings start = (.ok (), d)) :
    d.engine = s.engine ∧ d.operations = [] ∧ d.resultTypes = [] := by
  obtain ⟨_, hblank⟩ := typeStage_closed h
  rw [hblank]
  exact ⟨rfl, rfl, rfl⟩

end Offline

end SchemaModel
