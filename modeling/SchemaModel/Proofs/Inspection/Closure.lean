import SchemaModel.Proofs.Inspection.Changes
import SchemaModel.Proofs.Inspection.Types

/-!
# `SchemaModel.Proofs.Inspection.Closure` — no key dangles

Keys and field names are copied around a lot during an inspection: from foreign keys, from
overrides, from the names of routines, from composite types and from one field to another. Wherever
they come from, they end up canonical: every one is literally the key or name of something that is
there.

## Contents
- `Operation.Closed`, `Domain.Closed`: everything that an operation or a domain names is there.
- `Domain.Closed.validateReferences`: a closed domain passes its own check.
- **Steps.** `Change.closed`: the three changes of result types keep a domain closed;
  `operationStage_closed`: so does every routine.
- `inspect_closed`: what an inspection gives is closed.
-/

namespace SchemaModel

open Inspection

/-! ## Closed domains -/

/-- Everything that an operation names is in the domain, literally under the name it gives. -/
structure Operation.Closed (d : Domain) (o : Operation) : Prop where
  related : ∀ key, o.relatedType = some key → d.LoadsType key
  returnKey : o.returns.typeKey.isSome = true ↔
    o.returns.kind = .applicationType ∨ o.returns.kind = .customType
  returnTable : ∀ key, o.returns.kind = .applicationType → o.returns.typeKey = some key →
    d.LoadsType key
  returnRows : ∀ key, o.returns.kind = .customType → o.returns.typeKey = some key →
    d.LoadsResultType key
  parameterRows : ∀ p ∈ o.parameters, ∀ key, p.resultType = some key → d.LoadsResultType key
  parameterField : ∀ p ∈ o.parameters, ∀ name, p.relatedField = some name →
    ∃ t, o.relatedType.bind d.findType? = some t ∧ ∃ f ∈ t.fields, f.name = name

/-- Everything that a domain names is in it, literally under the name it gives. -/
structure Domain.Closed (d : Domain) : Prop extends d.TypesClosed where
  resultReferences : ∀ r ∈ d.resultTypes, ∀ f ∈ r.fields, ∀ reference,
    f.references = some reference → d.LoadsField reference
  resultRelated : ∀ r ∈ d.resultTypes, ∀ key, r.relatedType = some key → d.LoadsType key
  operations : ∀ o ∈ d.operations, o.Closed d

namespace Domain

variable {d : Domain}

theorem LoadsType.findType?_ne_none {key : TypeKey} (h : d.LoadsType key) :
    (d.findType? key).isNone = false := by
  obtain ⟨t, ht, _⟩ := h
  rw [ht]
  rfl

theorem LoadsResultType.findResultType?_ne_none {key : TypeKey} (h : d.LoadsResultType key) :
    (d.findResultType? key).isNone = false := by
  obtain ⟨r, hr, _⟩ := h
  rw [hr]
  rfl

theorem LoadsField.findField?_ne_none {reference : FieldReference} (h : d.LoadsField reference) :
    (d.findField? reference).isNone = false := by
  obtain ⟨t, ht, _, f, hf, hname⟩ := h
  unfold findField?
  rw [ht, Option.bind_some]
  have hsome : (t.field? reference.field).isSome = true := by
    unfold ApplicationType.field?
    rw [List.find?_isSome]
    exact ⟨f, hf, beq_iff_eq.2 hname⟩
  rw [Option.isNone_eq_false_iff]
  exact hsome

theorem typeProblems_eq_nil {t : ApplicationType}
    (h : ∀ f ∈ t.fields, ∀ reference, f.references = some reference → d.LoadsField reference) :
    d.typeProblems t = [] := by
  unfold typeProblems
  rw [List.filterMap_eq_nil_iff]
  intro f hf
  cases hreference : f.references with
  | none => rfl
  | some reference =>
      dsimp only
      rw [(h f hf reference hreference).findField?_ne_none]
      rfl

theorem resultProblems_eq_nil {r : ResultType}
    (h : ∀ key, r.relatedType = some key → d.LoadsType key) : d.resultProblems r = [] := by
  unfold resultProblems
  cases hrelated : r.relatedType with
  | none => rfl
  | some related =>
      dsimp only
      rw [(h related hrelated).findType?_ne_none]
      rfl

theorem returnPresent_of_closed {o : Operation} (h : o.Closed d) {key : TypeKey}
    (hkey : o.returns.typeKey = some key) : d.returnPresent o.returns.kind key = true := by
  unfold returnPresent
  cases hkind : o.returns.kind with
  | applicationType =>
      obtain ⟨t, ht, _⟩ := h.returnTable key hkind hkey
      dsimp only
      rw [ht]
      rfl
  | customType =>
      obtain ⟨r, hr, _⟩ := h.returnRows key hkind hkey
      dsimp only
      rw [hr]
      rfl
  | none => rfl
  | primitive => rfl

theorem operationProblems_eq_nil {o : Operation} (h : o.Closed d) : d.operationProblems o = [] := by
  unfold operationProblems
  rw [List.append_eq_nil_iff, List.append_eq_nil_iff]
  refine ⟨⟨?_, ?_⟩, ?_⟩
  · cases hrelated : o.relatedType with
    | none => rfl
    | some related =>
        dsimp only
        rw [(h.related related hrelated).findType?_ne_none]
        rfl
  · cases hkey : o.returns.typeKey with
    | none => rfl
    | some key =>
        dsimp only
        rw [returnPresent_of_closed h hkey]
        rfl
  · rw [List.filterMap_eq_nil_iff]
    intro p hp
    cases hkey : p.resultType with
    | none => rfl
    | some key =>
        dsimp only
        rw [(h.parameterRows p hp key hkey).findResultType?_ne_none]
        rfl

/-- A closed domain passes its own check. -/
theorem Closed.validateReferences (h : d.Closed) : d.validateReferences = [] := by
  unfold Domain.validateReferences
  rw [List.append_eq_nil_iff, List.append_eq_nil_iff]
  refine ⟨⟨?_, ?_⟩, ?_⟩
  · rw [List.flatMap_eq_nil_iff]
    intro t ht
    exact typeProblems_eq_nil (h.references t ht)
  · rw [List.flatMap_eq_nil_iff]
    intro r hr
    exact resultProblems_eq_nil (h.resultRelated r hr)
  · rw [List.flatMap_eq_nil_iff]
    intro o ho
    exact operationProblems_eq_nil (h.operations o ho)

end Domain

/-! ## Steps -/

section Steps

variable {user : TypeKey} {d d' : Domain} {label : Option TypeKey} {labels : List TypeKey}

/-- Changes of result types take nothing away that an operation names. -/
theorem Change.operation_closed (h : Change user d label d') {o : Operation} (ho : o.Closed d) :
    o.Closed d' where
  related := fun key hkey => h.frame.loadsType (ho.related key hkey)
  returnKey := ho.returnKey
  returnTable := fun key hkind hkey => h.frame.loadsType (ho.returnTable key hkind hkey)
  returnRows := fun key hkind hkey => h.loadsResultType (ho.returnRows key hkind hkey)
  parameterRows := fun p hp key hkey => h.loadsResultType (ho.parameterRows p hp key hkey)
  parameterField := by
    intro p hp name hname
    obtain ⟨t, ht, hf⟩ := ho.parameterField p hp name hname
    refine ⟨t, ?_, hf⟩
    rw [← ht]
    congr 1
    funext key
    exact h.frame.findType? key

/-- What a field points at after widening was pointed at by itself or by a field of the type. -/
theorem Domain.widenedField_references {engine : Engine} {source : ApplicationType} {f : Field}
    {reference : FieldReference}
    (h : (widenedField engine source f).references = some reference) :
    f.references = some reference ∨ ∃ g ∈ source.fields, g.references = some reference := by
  unfold widenedField at h
  cases hsource : sourceField? engine source f with
  | none =>
      rw [hsource] at h
      exact Or.inl h
  | some g =>
      rw [hsource] at h
      exact Or.inr ⟨g, List.mem_of_find?_eq_some hsource, h⟩

/-- Fields of result types point at canonical fields after every change: widening copies what fields
of types point at, and new result types point at nothing. -/
theorem Change.resultReferences (h : Change user d label d') (hd : d.Closed) :
    ∀ r ∈ d'.resultTypes, ∀ f ∈ r.fields, ∀ reference, f.references = some reference →
      d.LoadsField reference := by
  intro r hr f hf reference hreference
  cases h with
  | @reused key r₀ hfind =>
      rcases mem_modifyFirst hr with hold | ⟨r₁, hr₁, rfl⟩
      · exact hd.resultReferences r hold f hf reference hreference
      · obtain ⟨users, hsame⟩ := r₁.addOperation_eq user
        rw [hsame] at hf
        exact hd.resultReferences r₁ hr₁ f hf reference hreference
  | added _ _ _ hfields =>
      rcases List.mem_append.1 hr with hold | hnew
      · exact hd.resultReferences r hold f hf reference hreference
      · rw [List.mem_singleton.1 hnew] at hf
        rw [hfields f hf] at hreference
        cases hreference
  | widened key source =>
      rcases d.widenResult_cases key source with ⟨_, hw⟩ | ⟨t, _, ht, _, hw⟩
      · rw [hw] at hr
        exact hd.resultReferences r hr f hf reference hreference
      · rw [hw] at hr
        rcases mem_modifyFirst hr with hold | ⟨r₁, hr₁, rfl⟩
        · exact hd.resultReferences r hold f hf reference hreference
        · obtain ⟨f₁, hf₁, rfl⟩ := List.mem_map.1 hf
          rcases Domain.widenedField_references hreference with hown | ⟨g, hg, hgiven⟩
          · exact hd.resultReferences r₁ hr₁ f₁ hf₁ reference hown
          · exact hd.references t (List.mem_of_find?_eq_some ht) g hg reference hgiven

theorem Change.resultRelated (h : Change user d label d') (hd : d.Closed) :
    ∀ r ∈ d'.resultTypes, ∀ key, r.relatedType = some key → d.LoadsType key := by
  intro r hr related hkey
  cases h with
  | @reused key r₀ hfind =>
      rcases mem_modifyFirst hr with hold | ⟨r₁, hr₁, rfl⟩
      · exact hd.resultRelated r hold related hkey
      · obtain ⟨users, hsame⟩ := r₁.addOperation_eq user
        rw [hsame] at hkey
        exact hd.resultRelated r₁ hr₁ related hkey
  | added _ _ hrelated _ =>
      rcases List.mem_append.1 hr with hold | hnew
      · exact hd.resultRelated r hold related hkey
      · rw [List.mem_singleton.1 hnew] at hkey
        exact hrelated related hkey
  | widened key source =>
      rcases d.widenResult_cases key source with ⟨_, hw⟩ | ⟨t, _, ht, _, hw⟩
      · rw [hw] at hr
        exact hd.resultRelated r hr related hkey
      · rw [hw] at hr
        rcases mem_modifyFirst hr with hold | ⟨r₁, hr₁, rfl⟩
        · exact hd.resultRelated r hold related hkey
        · exact hd.resultRelated r₁ hr₁ related hkey

theorem Change.closed (h : Change user d label d') (hd : d.Closed) : d'.Closed where
  references := by
    rw [h.frame.types]
    intro t ht f hf reference hreference
    exact h.frame.loadsField (hd.references t ht f hf reference hreference)
  constraints := by
    rw [h.frame.types]
    exact hd.constraints
  resultReferences := fun r hr f hf reference hreference =>
    h.frame.loadsField (h.resultReferences hd r hr f hf reference hreference)
  resultRelated := fun r hr key hkey => h.frame.loadsType (h.resultRelated hd r hr key hkey)
  operations := by
    rw [h.frame.operations]
    intro o ho
    exact h.operation_closed (hd.operations o ho)

theorem Changes.closed (h : Changes user d labels d') (hd : d.Closed) : d'.Closed := by
  induction h with
  | nil _ => exact hd
  | cons head _ ih => exact ih (head.closed hd)

/-- An operation names what was found or registered while it was loaded. -/
theorem Offline.Loaded.closed {row : RoutineRow} {o : Operation} (h : Loaded row d o d') :
    o.Closed d' where
  related := h.related
  returnKey := h.returns.key
  returnTable := h.returns.loads
  returnRows := by
    intro key hkind hkey
    apply h.changes.loads_labels
    refine List.mem_append_right _ ?_
    unfold OperationReturn.customKey?
    rw [if_pos hkind, hkey]
    exact List.mem_singleton_self key
  parameterRows := by
    intro p hp key hkey
    apply h.changes.loads_labels
    exact List.mem_append_left _ (List.mem_filterMap.2 ⟨p, hp, hkey⟩)
  parameterField := h.matched

/-- A closed operation may be added. The keys of the domain do not depend on its operations. -/
theorem Domain.Closed.push (hd : d.Closed) {o : Operation} (ho : o.Closed d) :
    { d with operations := d.operations ++ [o] }.Closed where
  references := hd.references
  constraints := hd.constraints
  resultReferences := hd.resultReferences
  resultRelated := hd.resultRelated
  operations := by
    intro o' ho'
    rcases List.mem_append.1 ho' with hold | hnew
    · have hclosed := hd.operations o' hold
      exact ⟨hclosed.1, hclosed.2, hclosed.3, hclosed.4, hclosed.5, hclosed.6⟩
    · rw [List.mem_singleton.1 hnew]
      exact ⟨ho.1, ho.2, ho.3, ho.4, ho.5, ho.6⟩

end Steps

namespace Offline

variable {s : CatalogSnapshot} {settings : Settings} {executed : List String} {start d d' : Domain}

theorem operationStage_closed {rows : List RoutineRow} (he : d.engine = s.engine) (hd : d.Closed)
    (h : operationStage s rows d = (.ok (), d')) : d'.Closed := by
  induction rows generalizing d with
  | nil =>
      obtain ⟨_, rfl⟩ := Build.pure_eq_ok.1 h
      exact hd
  | cons row rest ih =>
      obtain ⟨o, d₁, ho, hrest⟩ := Build.bind_eq_ok.1 h
      rw [Build.act_bind] at hrest
      have hloaded := operation_loaded he ho
      have hclosed := (hloaded.changes.closed hd).push hloaded.closed
      refine ih ?_ hclosed hrest
      exact hloaded.changes.frame.engine.trans he

/-- Whatever the snapshot and the settings, what an inspection gives is closed, so that the check of
its references has nothing to say. -/
theorem inspect_closed
    (h : (run (inspect s.catalog settings) executed start).result = .ok d) :
    d.validateReferences = [] ∧ d.Closed := by
  obtain ⟨d₀, htypes, hoperations⟩ := inspect_eq_ok.1 h
  obtain ⟨htyped, hblank⟩ := typeStage_closed htypes
  have hclosed₀ : d₀.Closed := by
    refine ⟨htyped, ?_, ?_, ?_⟩
    · rw [hblank]
      intro r hr
      cases hr
    · rw [hblank]
      intro r hr
      cases hr
    · rw [hblank]
      intro o ho
      cases ho
  have hengine : d₀.engine = s.engine := by rw [hblank]; rfl
  have hclosed := operationStage_closed hengine hclosed₀ hoperations
  exact ⟨hclosed.validateReferences, hclosed⟩

theorem inspect_closed_orders :
    ∃ d, (run (inspect orders.catalog Settings.standard) [] default).result = .ok d ∧
      d.validateReferences = [] ∧ d.Closed := by
  obtain ⟨d, h⟩ := orders_inspected
  exact ⟨d, h, inspect_closed h⟩

end Offline

end SchemaModel
