import SchemaModel.Inspection.Operations

/-!
# `SchemaModel.Proofs.Domain.LookUp` — keys that name something

A look-up compares keys the way the engine does and gives the first match, so the key that was asked
for need not be the key of what was found. A key that was taken from what a look-up found is better:
it is *canonical*, for a second look-up finds the same thing under literally this key.

## Contents
- `LoadsType`, `LoadsField`, `LoadsResultType`: a key or reference is canonical in a domain.
- `find?_canonical`: the key of what a look-up found is canonical; its instances for types, fields
  and result types, and for types named in overrides (`lookUpType?_loads`).
- `LoadsResultType.of_keys`, `loadsResultType_added`: what stays and what becomes canonical when
  result types are added.
- `findResultType?_added`, `findResultType?_modify`: what is found after a result type was added or
  changed.
- `Domain.Frame`: two domains differ in their result types at most.
-/

namespace SchemaModel

/-- The key of what a look-up found finds the same thing again. -/
theorem find?_canonical {α : Type} {engine : Engine} {key : α → TypeKey} {wanted : TypeKey}
    {xs : List α} {x : α} (h : xs.find? (fun y => engine.keysEqual (key y) wanted) = some x) :
    xs.find? (fun y => engine.keysEqual (key y) (key x)) = some x := by
  have hx := List.find?_some h
  rw [← h]
  congr 1
  funext y
  exact engine.keysEqual_congr hx (key y)

namespace Domain

/-! ## Canonical keys -/

/-- The key is literally that of the type which it finds. -/
def LoadsType (d : Domain) (key : TypeKey) : Prop :=
  ∃ t, d.findType? key = some t ∧ t.key = key

/-- The reference carries literally the key of a type and the name of a field of it. -/
def LoadsField (d : Domain) (reference : FieldReference) : Prop :=
  ∃ t, d.findType? reference.typeKey = some t ∧ t.key = reference.typeKey ∧
    ∃ f ∈ t.fields, f.name = reference.field

/-- The key is literally that of the result type which it finds. -/
def LoadsResultType (d : Domain) (key : TypeKey) : Prop :=
  ∃ r, d.findResultType? key = some r ∧ r.key = key

theorem findType?_canonical {d : Domain} {key : TypeKey} {t : ApplicationType}
    (h : d.findType? key = some t) : d.findType? t.key = some t :=
  find?_canonical h

theorem findResultType?_canonical {d : Domain} {key : TypeKey} {r : ResultType}
    (h : d.findResultType? key = some r) : d.findResultType? r.key = some r :=
  find?_canonical h

theorem loadsType_of_findType? {d : Domain} {key : TypeKey} {t : ApplicationType}
    (h : d.findType? key = some t) : d.LoadsType t.key :=
  ⟨t, findType?_canonical h, rfl⟩

theorem loadsResultType_of_findResultType? {d : Domain} {key : TypeKey} {r : ResultType}
    (h : d.findResultType? key = some r) : d.LoadsResultType r.key :=
  ⟨r, findResultType?_canonical h, rfl⟩

/-- A result type is loaded under its key whenever it is in the list. -/
theorem findResultType?_isSome_of_mem {d : Domain} {r : ResultType} (h : r ∈ d.resultTypes) :
    (d.findResultType? r.key).isSome = true := by
  unfold findResultType?
  rw [List.find?_isSome]
  exact ⟨r, h, d.engine.keysEqual_refl r.key⟩

/-- Only the keys of the result types matter for which of them are canonical. -/
theorem loadsResultType_iff {d : Domain} {key : TypeKey} :
    d.LoadsResultType key ↔
      (d.resultTypes.map ResultType.key).find? (fun k => d.engine.keysEqual k key) = some key := by
  unfold LoadsResultType findResultType?
  rw [List.find?_map, Option.map_eq_some_iff]
  rfl

/-- Canonical keys stay canonical when keys are added behind them. -/
theorem LoadsResultType.of_keys {d d' : Domain} {key : TypeKey} {more : List TypeKey}
    (hk : d.LoadsResultType key) (he : d'.engine = d.engine)
    (hkeys : d'.resultTypes.map ResultType.key = d.resultTypes.map ResultType.key ++ more) :
    d'.LoadsResultType key := by
  rw [loadsResultType_iff] at hk ⊢
  rw [he, hkeys, List.find?_append, hk]
  rfl

/-- A result type under whose key nothing was found is found there once it is added. -/
theorem loadsResultType_added {d : Domain} {r : ResultType}
    (hnew : d.findResultType? r.key = none) :
    ({ d with resultTypes := d.resultTypes ++ [r] } : Domain).LoadsResultType r.key := by
  refine ⟨r, ?_, rfl⟩
  unfold findResultType? at hnew ⊢
  dsimp only
  rw [List.find?_append, hnew, Option.none_or]
  exact List.find?_cons_of_pos (d.engine.keysEqual_refl r.key)

theorem findResultType?_congr {d : Domain} {key key' : TypeKey}
    (h : d.engine.keysEqual key key' = true) : d.findResultType? key = d.findResultType? key' := by
  unfold findResultType?
  congr 1
  funext r
  exact d.engine.keysEqual_congr h r.key

/-- A result type that is added where nothing was found is found under every key that is the same to
the engine; under any other key the look-up gives what it gave. -/
theorem findResultType?_added {d : Domain} {r : ResultType} (wanted : TypeKey)
    (hnew : d.findResultType? r.key = none) :
    ({ d with resultTypes := d.resultTypes ++ [r] } : Domain).findResultType? wanted =
      if d.engine.keysEqual r.key wanted then some r else d.findResultType? wanted := by
  unfold findResultType?
  dsimp only
  rw [List.find?_append]
  by_cases hsame : d.engine.keysEqual r.key wanted = true
  · have hnone := (findResultType?_congr hsame).symm.trans hnew
    unfold findResultType? at hnone
    rw [if_pos hsame, hnone, Option.none_or]
    exact List.find?_cons_of_pos hsame
  · have hlast : [r].find? (fun x => d.engine.keysEqual x.key wanted) = none :=
      List.find?_cons_of_neg hsame
    rw [if_neg hsame, hlast, Option.or_none]

/-- A change of the result type under a key is seen under every key that is the same to the
engine. -/
theorem findResultType?_modify (d : Domain) (key wanted : TypeKey)
    {change : ResultType → ResultType} (hkey : ∀ r, (change r).key = r.key) :
    (d.modifyResultType key change).findResultType? wanted =
      if d.engine.keysEqual key wanted then (d.findResultType? wanted).map change
      else d.findResultType? wanted := by
  have hkept : ∀ r, d.engine.keysEqual (change r).key wanted = d.engine.keysEqual r.key wanted := by
    intro r
    rw [hkey]
  unfold findResultType? modifyResultType
  dsimp only
  by_cases hsame : d.engine.keysEqual key wanted = true
  · have hboth : (fun r : ResultType => d.engine.keysEqual r.key key) =
        fun r => d.engine.keysEqual r.key wanted :=
      funext fun r => d.engine.keysEqual_congr hsame r.key
    rw [if_pos hsame, hboth]
    exact find?_modifyFirst hkept d.resultTypes
  · rw [if_neg hsame]
    refine find?_modifyFirst_of_not (fun r hr => ?_) hkept d.resultTypes
    refine Bool.eq_false_iff.2 fun hwanted => hsame ?_
    exact d.engine.keysEqual_trans ((d.engine.keysEqual_comm key r.key).trans hr) hwanted

/-! ## Types named in overrides -/

/-- PostgreSQL's comparison of keys is equality. -/
theorem keysEqual_postgres {a b : TypeKey} (h : Engine.postgres.keysEqual a b = true) : a = b := by
  obtain ⟨schema, name⟩ := a
  unfold Engine.keysEqual Engine.namesEqual at h
  simp only [Bool.and_eq_true, beq_iff_eq] at h
  rw [h.1, h.2]

/-- What an override names is given by its canonical key. -/
theorem lookUpType?_loads {d : Domain} {text schema : String} {key : TypeKey}
    (h : Inspection.lookUpType? d text schema = some key) : d.LoadsType key := by
  unfold Inspection.lookUpType? at h
  dsimp only at h
  cases hfind : d.findType? (Inspection.typeNameKey text schema) with
  | some t =>
      rw [hfind] at h
      cases h
      exact loadsType_of_findType? hfind
  | none =>
      simp only [hfind] at h
      split at h
      · rename_i t hone
        cases h
        have hmem : t ∈ [t] := List.mem_singleton.2 rfl
        rw [← hone, List.mem_filter] at hmem
        -- The engine's own comparison found nothing, so it is not the one that ignores the case.
        have hengine : d.engine = .postgres := by
          cases he : d.engine with
          | postgres => rfl
          | sqlServer =>
              unfold findType? at hfind
              rw [he, List.find?_eq_none] at hfind
              exact absurd hmem.2 (hfind t hmem.1)
        cases hself : d.findType? t.key with
        | none =>
            unfold findType? at hself
            rw [List.find?_eq_none] at hself
            exact absurd (d.engine.keysEqual_refl t.key) (hself t hmem.1)
        | some t' =>
            refine ⟨t', hself, ?_⟩
            have ht' := List.find?_some hself
            rw [hengine] at ht'
            exact keysEqual_postgres ht'
      · cases h

/-! ## Domains that differ in their result types at most -/

/-- The two domains have the same engine, style, namespace, types and operations. -/
structure Frame (d d' : Domain) : Prop where
  defaultNamespace : d'.defaultNamespace = d.defaultNamespace
  engine : d'.engine = d.engine
  naming : d'.naming = d.naming
  types : d'.types = d.types
  operations : d'.operations = d.operations

namespace Frame

variable {d d' d'' : Domain}

theorem refl (d : Domain) : Frame d d := ⟨rfl, rfl, rfl, rfl, rfl⟩

theorem trans (h : Frame d d') (h' : Frame d' d'') : Frame d d'' where
  defaultNamespace := h'.defaultNamespace.trans h.defaultNamespace
  engine := h'.engine.trans h.engine
  naming := h'.naming.trans h.naming
  types := h'.types.trans h.types
  operations := h'.operations.trans h.operations

theorem findType? (h : Frame d d') (key : TypeKey) : d'.findType? key = d.findType? key := by
  unfold Domain.findType?
  rw [h.types, h.engine]

theorem loadsType (h : Frame d d') {key : TypeKey} (hk : d.LoadsType key) : d'.LoadsType key := by
  unfold LoadsType
  rw [h.findType?]
  exact hk

theorem loadsField (h : Frame d d') {reference : FieldReference} (hr : d.LoadsField reference) :
    d'.LoadsField reference := by
  unfold LoadsField
  rw [h.findType?]
  exact hr

end Frame

end Domain

end SchemaModel
