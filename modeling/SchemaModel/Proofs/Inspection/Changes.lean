import SchemaModel.Proofs.Catalog.Answers
import SchemaModel.Proofs.Domain.Widening
import SchemaModel.Proofs.Inspection.Offline

/-!
# `SchemaModel.Proofs.Inspection.Changes` — what operations do to the result types

Loading an operation touches the domain in three ways only: it registers the operation with a result
type that is there, it adds a result type, or it widens one. What these three preserve is preserved
by whole operations, whatever way their shapes are found.

## Contents
- `Change`: one of the three, labelled with the key under which the operation was registered.
- `Changes`: several of them with all their labels, in order.
- **Keys.** No change takes a result type away, and every label is the key of one.
- **Shapes.** `LooksUp`, `rowShape_eq_ok` and `declaredShape_eq_ok` say in which ways a shape is
  found.
- `Operation.usedKeys`: the result types that an operation names. `operation_changes`: loading an
  operation is a sequence of changes labelled with exactly these.
-/

namespace SchemaModel

/-! ## Single changes -/

/-- A change of the domain while an operation with the key `user` is loaded. The label is the key of
the result type which the operation was registered with. -/
inductive Change (user : TypeKey) : Domain → Option TypeKey → Domain → Prop where
  | reused {d : Domain} {key : TypeKey} {r : ResultType} (hfind : d.findResultType? key = some r) :
      Change user d (some r.key) (d.modifyResultType key fun r => r.addOperation user)
  | added {d : Domain} {r : ResultType} (hnew : d.findResultType? r.key = none)
      (husers : r.operations = [user])
      (hrelated : ∀ related, r.relatedType = some related → d.LoadsType related)
      (hfields : ∀ f ∈ r.fields, f.references = none) :
      Change user d (some r.key) { d with resultTypes := d.resultTypes ++ [r] }
  | widened (d : Domain) (key source : TypeKey) : Change user d none (d.widenResult key source).1

/-- Another user changes the users of a result type and nothing else. -/
theorem ResultType.addOperation_eq (r : ResultType) (user : TypeKey) :
    ∃ users, r.addOperation user = { r with operations := users } := by
  unfold ResultType.addOperation
  split
  · exact ⟨r.operations, rfl⟩
  · exact ⟨r.operations ++ [user], rfl⟩

theorem ResultType.addOperation_key (r : ResultType) (user : TypeKey) :
    (r.addOperation user).key = r.key := by
  obtain ⟨users, h⟩ := r.addOperation_eq user
  rw [h]
  rfl

namespace Change

variable {user : TypeKey} {d d' : Domain} {label : Option TypeKey}

/-- Changes are to the result types alone. -/
theorem frame (h : Change user d label d') : d.Frame d' := by
  cases h with
  | reused _ => exact ⟨rfl, rfl, rfl, rfl, rfl⟩
  | added _ _ _ _ => exact ⟨rfl, rfl, rfl, rfl, rfl⟩
  | widened key source =>
      rcases d.widenResult_cases key source with ⟨_, hw⟩ | ⟨t, _, _, _, hw⟩
      · rw [hw]
        exact .refl d
      · rw [hw]
        exact ⟨rfl, rfl, rfl, rfl, rfl⟩

/-- The keys of the result types stay in place; at most one more comes last. -/
theorem keys (h : Change user d label d') :
    d'.resultTypes.map ResultType.key = d.resultTypes.map ResultType.key ∨
      ∃ key, label = some key ∧ d.findResultType? key = none ∧
        d'.resultTypes.map ResultType.key = d.resultTypes.map ResultType.key ++ [key] := by
  cases h with
  | reused _ =>
      exact Or.inl (map_modifyFirst _ _ _ (fun r => r.addOperation_key user) _)
  | added hnew _ _ _ =>
      exact Or.inr ⟨_, rfl, hnew, List.map_append⟩
  | widened key source =>
      refine Or.inl ?_
      rcases d.widenResult_cases key source with ⟨_, hw⟩ | ⟨t, _, _, _, hw⟩
      · rw [hw]
      · rw [hw]
        refine map_modifyFirst _ _ ResultType.key ?_ _
        intro r
        rfl

/-- Canonical keys of result types stay canonical. -/
theorem loadsResultType (h : Change user d label d') {key : TypeKey} (hk : d.LoadsResultType key) :
    d'.LoadsResultType key := by
  rcases h.keys with hkeys | ⟨new, _, _, hkeys⟩
  · exact hk.of_keys h.frame.engine (hkeys.trans (List.append_nil _).symm)
  · exact hk.of_keys h.frame.engine hkeys

/-- The result type that the operation was registered with is loaded under its key. -/
theorem loads_label {key : TypeKey} (h : Change user d (some key) d') : d'.LoadsResultType key := by
  cases h with
  | reused hfind =>
      have hloads := Domain.loadsResultType_of_findResultType? hfind
      exact loadsResultType (.reused hfind) hloads
  | added hnew _ _ _ => exact Domain.loadsResultType_added hnew

end Change

/-! ## Sequences of changes -/

/-- Changes one after the other, with their labels in order. -/
inductive Changes (user : TypeKey) : Domain → List TypeKey → Domain → Prop where
  | nil (d : Domain) : Changes user d [] d
  | cons {d d' d'' : Domain} {label : Option TypeKey} {labels : List TypeKey}
      (head : Change user d label d') (tail : Changes user d' labels d'') :
      Changes user d (label.toList ++ labels) d''

namespace Changes

variable {user : TypeKey} {d d' d'' : Domain} {labels labels' : List TypeKey}

theorem single {label : Option TypeKey} (h : Change user d label d') :
    Changes user d label.toList d' := by
  have hcons := Changes.cons h (.nil d')
  rwa [List.append_nil] at hcons

theorem append (h : Changes user d labels d') (h' : Changes user d' labels' d'') :
    Changes user d (labels ++ labels') d'' := by
  induction h with
  | nil _ => exact h'
  | cons head _ ih =>
      rw [List.append_assoc]
      exact .cons head (ih h')

theorem frame (h : Changes user d labels d') : d.Frame d' := by
  induction h with
  | nil d => exact .refl d
  | cons head _ ih => exact head.frame.trans ih

theorem loadsResultType (h : Changes user d labels d') {key : TypeKey}
    (hk : d.LoadsResultType key) : d'.LoadsResultType key := by
  induction h with
  | nil _ => exact hk
  | cons head _ ih => exact ih (head.loadsResultType hk)

/-- Every key that the operation was registered under is that of a result type in the end. -/
theorem loads_labels (h : Changes user d labels d') : ∀ key ∈ labels, d'.LoadsResultType key := by
  induction h with
  | nil _ =>
      intro key hkey
      cases hkey
  | @cons _ _ _ label _ head tail ih =>
      intro key hkey
      rcases List.mem_append.1 hkey with hlabel | hrest
      · rw [Option.mem_toList] at hlabel
        rw [Option.mem_def.1 hlabel] at head
        exact tail.loadsResultType head.loads_label
      · exact ih key hrest

end Changes

/-! ## Shapes -/

/-- The result type that a return shape names. -/
def OperationReturn.customKey? (r : OperationReturn) : Option TypeKey :=
  if r.kind = .customType then r.typeKey else none

/-- The result types that an operation names, those of its parameters first. -/
def Operation.usedKeys (op : Operation) : List TypeKey :=
  op.parameters.filterMap Parameter.resultType ++ op.returns.customKey?.toList

/-- The result type that a user-defined type stands for. -/
def Inspection.UserTypeShape.resultKey? : Inspection.UserTypeShape → Option TypeKey
  | .rows key => some key
  | .value _ => none

/-- A return shape has a key exactly when its kind asks for one, and the key of a type is
canonical. -/
structure OperationReturn.Named (d : Domain) (r : OperationReturn) : Prop where
  key : r.typeKey.isSome = true ↔ r.kind = .applicationType ∨ r.kind = .customType
  loads : ∀ key, r.kind = .applicationType → r.typeKey = some key → d.LoadsType key

namespace OperationReturn.Named

variable {d d' : Domain}

theorem nothing : Named d OperationReturn.nothing where
  key := by decide
  loads := fun _ hkind _ => by cases hkind

theorem primitive (valueType : Option ValueType) (multiple : Bool) :
    Named d (OperationReturn.primitive valueType multiple) where
  key := by simp [OperationReturn.primitive]
  loads := fun _ hkind _ => by cases hkind

theorem applicationType {key : TypeKey} (multiple : Bool) (h : d.LoadsType key) :
    Named d (OperationReturn.applicationType key multiple) where
  key := ⟨fun _ => Or.inl rfl, fun _ => rfl⟩
  loads := by
    intro key' _ hkey
    cases hkey
    exact h

theorem customType (key : TypeKey) (multiple : Bool) :
    Named d (OperationReturn.customType key multiple) where
  key := ⟨fun _ => Or.inr rfl, fun _ => rfl⟩
  loads := fun _ hkind _ => by cases hkind

theorem frame {r : OperationReturn} (h : Named d r) (hframe : d.Frame d') : Named d' r where
  key := h.key
  loads := fun key hkind hkey => hframe.loadsType (h.loads key hkind hkey)

end OperationReturn.Named

namespace Offline

open Inspection

variable {s : CatalogSnapshot} {user op : TypeKey} {d d' : Domain}

/-! ## User-defined types -/

/-- Where nothing is found under a key, nothing is found under one that is the same to the
engine. -/
theorem findResultType?_none_congr {key key' : TypeKey} (h : d.findResultType? key = none)
    (hkey : d.engine.keysEqual key' key = true) : d.findResultType? key' = none :=
  (Domain.findResultType?_congr hkey).trans h

theorem resultFields_fst (engine : Engine) (owner : String) (rows : List ResultColumnRow) :
    (resultFields engine owner rows).1 = rows.map fun row => (resultField engine owner row).1 :=
  List.map_map

/-- Fields of result columns point at nothing. -/
theorem resultFields_references {engine : Engine} {owner : String} {rows : List ResultColumnRow} :
    ∀ f ∈ (resultFields engine owner rows).1, f.references = none := by
  intro f hf
  rw [resultFields_fst, List.mem_map] at hf
  obtain ⟨row, _, rfl⟩ := hf
  rfl

/-- A composite type relates to a canonical type or to none. -/
theorem compositeType_related {row : UserTypeRow} {related : TypeKey}
    (h : (compositeType d row user).1.relatedType = some related) : d.LoadsType related := by
  change (Option.bind _ _ : Option TypeKey) = some related at h
  obtain ⟨text, _, hlookUp⟩ := Option.bind_eq_some_iff.1 h
  exact Domain.lookUpType?_loads hlookUp

/-- The ways in which a user-defined type is looked up: a result type goes by its name, or the
catalog lists a composite, which is added, or the catalog lists another type. -/
inductive LooksUp (s : CatalogSnapshot) (key user : TypeKey) (d : Domain) :
    UserTypeShape → Domain → Prop where
  | found {r : ResultType} (hfind : d.findResultType? key = some r) :
      LooksUp s key user d (.rows r.key) (d.modifyResultType key fun r => r.addOperation user)
  | composite {row : UserTypeRow} (hnew : d.findResultType? key = none)
      (hrow : s.userType? key.schema key.name = some row) (hkind : row.kind = .composite) :
      LooksUp s key user d (.rows (compositeType d row user).1.key)
        { d with resultTypes := d.resultTypes ++ [(compositeType d row user).1] }
  | other {row : UserTypeRow} (valueType : Option ValueType)
      (hrow : s.userType? key.schema key.name = some row) (hkind : row.kind ≠ .composite) :
      LooksUp s key user d (.value valueType) d

theorem userShape_looksUp {key : TypeKey} {shape : UserTypeShape}
    (h : userShape s key user d = (.ok shape, d')) : LooksUp s key user d shape d' := by
  unfold userShape at h
  cases hfind : d.findResultType? key with
  | some existing =>
      simp only [hfind] at h
      cases h
      exact .found hfind
  | none =>
      simp only [hfind] at h
      cases hrow : s.userType? key.schema key.name with
      | none =>
          simp only [hrow] at h
          cases h
      | some row =>
          simp only [hrow] at h
          cases hkind : row.kind with
          | composite =>
              simp only [hkind] at h
              cases h
              exact .composite hfind hrow hkind
          | domain =>
              simp only [hkind] at h
              cases h
              exact .other _ hrow (hkind ▸ nofun)
          | enum =>
              simp only [hkind] at h
              cases h
              exact .other _ hrow (hkind ▸ nofun)

theorem userShape_changes {key : TypeKey} {shape : UserTypeShape} (he : d.engine = s.engine)
    (h : userShape s key user d = (.ok shape, d')) :
    Changes user d shape.resultKey?.toList d' := by
  cases userShape_looksUp h with
  | found hfind => exact .single (.reused hfind)
  | @composite row hnew hrow _ =>
      have hsame : d.engine.keysEqual row.key key = true :=
        he ▸ CatalogSnapshot.userType?_key hrow
      refine .single (.added (findResultType?_none_congr hnew hsame) rfl ?_ ?_)
      · intro related hrelated
        exact compositeType_related hrelated
      · exact resultFields_references
  | other _ _ _ => exact .nil d

/-! ## Parameters -/

theorem typedParameter_eq_ok {p p' : Parameter} {valueType : Option ValueType}
    (h : typedParameter op p valueType = .ok p') :
    p'.resultType = p.resultType ∧ p'.relatedField = p.relatedField := by
  unfold typedParameter at h
  cases valueType with
  | none => cases h
  | some t =>
      cases h
      exact ⟨rfl, rfl⟩

theorem shapedParameter_eq_ok {row : ParameterRow} {shape : UserTypeShape} {p : Parameter}
    (h : shapedParameter op row shape d = (.ok p, d')) :
    p.resultType = shape.resultKey? ∧ p.relatedField = none ∧ d' = d := by
  cases shape with
  | rows key =>
      obtain ⟨rfl, rfl⟩ := Build.pure_eq_ok.1 h
      exact ⟨rfl, rfl, rfl⟩
  | value valueType =>
      obtain ⟨htyped, rfl⟩ := Build.outcome_eq_ok.1 h
      obtain ⟨hresult, hrelated⟩ := typedParameter_eq_ok htyped
      exact ⟨hresult, hrelated, rfl⟩

theorem parameter_changes {row : ParameterRow} {p : Parameter} (he : d.engine = s.engine)
    (h : parameter s op row d = (.ok p, d')) :
    Changes op d p.resultType.toList d' ∧ p.relatedField = none := by
  unfold parameter at h
  by_cases huser : row.isUserDefined
  · rw [if_pos huser] at h
    obtain ⟨shape, d₁, hshape, hrest⟩ := Build.bind_eq_ok.1 h
    obtain ⟨hresult, hrelated, rfl⟩ := shapedParameter_eq_ok hrest
    rw [hresult]
    exact ⟨userShape_changes he hshape, hrelated⟩
  · rw [if_neg huser] at h
    obtain ⟨htyped, rfl⟩ := Build.outcome_eq_ok.1 h
    obtain ⟨hresult, hrelated⟩ := typedParameter_eq_ok htyped
    rw [hresult]
    exact ⟨.nil d', hrelated⟩

theorem parameters_changes {rows : List ParameterRow} {ps : List Parameter}
    (he : d.engine = s.engine) (h : parameters s op rows d = (.ok ps, d')) :
    Changes op d (ps.filterMap Parameter.resultType) d' ∧ ∀ p ∈ ps, p.relatedField = none := by
  induction rows generalizing d ps with
  | nil =>
      obtain ⟨rfl, rfl⟩ := Build.pure_eq_ok.1 h
      exact ⟨.nil d', fun p hp => by cases hp⟩
  | cons row rest ih =>
      obtain ⟨p, d₁, hp, hrest⟩ := Build.bind_eq_ok.1 h
      obtain ⟨more, d₂, hmore, hlast⟩ := Build.bind_eq_ok.1 hrest
      obtain ⟨rfl, rfl⟩ := Build.pure_eq_ok.1 hlast
      obtain ⟨hfirst, hplain⟩ := parameter_changes he hp
      obtain ⟨hothers, hplains⟩ := ih (hfirst.frame.engine.trans he) hmore
      constructor
      · have hall := hfirst.append hothers
        cases hkey : p.resultType with
        | none =>
            rw [List.filterMap_cons_none hkey]
            rwa [hkey] at hall
        | some key =>
            rw [List.filterMap_cons_some hkey]
            rwa [hkey] at hall
      · intro q hq
        rcases List.mem_cons.1 hq with rfl | hq
        · exact hplain
        · exact hplains q hq

/-! ## Return shapes -/

theorem widened_changes (d : Domain) (key user : TypeKey) (related : Option TypeKey) :
    Changes user d [] (widened d key related) := by
  cases related with
  | none => exact .nil d
  | some source => exact .single (.widened d key source)

variable {o : Operation} {returns : OperationReturn}

theorem findTypeByFields?_loads {fields : List Field} {caseSensitive : Bool} {key : TypeKey}
    (h : d.findTypeByFields? fields o caseSensitive = some key) : d.LoadsType key := by
  unfold Domain.findTypeByFields? at h
  obtain ⟨candidate, _, hcandidate⟩ := List.exists_of_findSome?_eq_some h
  obtain ⟨t, hfind, ht⟩ := Option.bind_eq_some_iff.1 hcandidate
  split at ht
  · cases ht
    exact Domain.loadsType_of_findType? hfind
  · cases ht

theorem namedRowShape_changes {rows : List ResultColumnRow}
    (hrelated : ∀ key, o.relatedType = some key → d.LoadsType key)
    (h : namedRowShape o rows d = (.ok returns, d')) :
    Changes o.key d returns.customKey?.toList d' ∧ returns.Named d := by
  unfold namedRowShape at h
  cases hfind : d.findResultType? (rowTypeKey d o) with
  | some existing =>
      simp only [hfind] at h
      cases h
      exact ⟨.single (.reused hfind), .customType _ _⟩
  | none =>
      simp only [hfind] at h
      cases h
      refine ⟨?_, .customType _ _⟩
      have hadded : Change o.key d (some (rowTypeKey d o))
          { d with resultTypes := d.resultTypes ++ [synthesized d o rows] } :=
        .added (r := synthesized d o rows) hfind rfl hrelated resultFields_references
      exact .cons hadded (widened_changes _ _ _ _)

/-- Output columns are a value or the rows of a table, or they go under a name. -/
theorem rowShape_eq_ok {rows : List ResultColumnRow} (h : rowShape o rows d = (.ok returns, d')) :
    (d' = d ∧ returns.customKey? = none ∧ returns.Named d) ∨
      namedRowShape o rows d = (.ok returns, d') := by
  unfold rowShape at h
  split at h
  · cases h
    exact Or.inl ⟨rfl, rfl, .primitive _ _⟩
  · split at h
    · rename_i hfind
      cases h
      exact Or.inl ⟨rfl, rfl, .applicationType _ (findTypeByFields?_loads hfind)⟩
    · exact Or.inr h

theorem rowShape_changes {rows : List ResultColumnRow}
    (hrelated : ∀ key, o.relatedType = some key → d.LoadsType key)
    (h : rowShape o rows d = (.ok returns, d')) :
    Changes o.key d returns.customKey?.toList d' ∧ returns.Named d := by
  rcases rowShape_eq_ok h with ⟨rfl, hkey, hnamed⟩ | h
  · rw [hkey]
    exact ⟨.nil d', hnamed⟩
  · exact namedRowShape_changes hrelated h

theorem resolvedShape_changes {returnsSet : Bool} {shape : UserTypeShape}
    (h : resolvedShape o returnsSet shape d = (.ok returns, d')) :
    Changes o.key d [] d' ∧ returns.customKey? = shape.resultKey? ∧ returns.Named d := by
  cases shape with
  | rows key =>
      cases h
      exact ⟨widened_changes _ _ _ _, rfl, .customType _ _⟩
  | value valueType =>
      obtain ⟨rfl, rfl⟩ := Build.pure_eq_ok.1 h
      exact ⟨.nil d', rfl, .primitive _ _⟩

/-- A declared return type is nothing, a value or the rows of a table, or it is looked up as a
user-defined type. -/
theorem declaredShape_eq_ok {row : RoutineRow}
    (h : declaredShape s o row d = (.ok returns, d')) :
    (d' = d ∧ returns.customKey? = none ∧ returns.Named d) ∨
      ∃ shape d₁,
        userShape s (typeNameKey (row.returnType.getD "") o.schema) o.key d = (.ok shape, d₁) ∧
          resolvedShape o row.returnsSet shape d₁ = (.ok returns, d') := by
  unfold declaredShape at h
  dsimp only at h
  split at h
  · cases h
    exact Or.inl ⟨rfl, rfl, .nothing⟩
  split at h
  · cases h
    exact Or.inl ⟨rfl, rfl, .primitive _ _⟩
  split at h
  · cases h
    exact Or.inl ⟨rfl, rfl, .primitive _ _⟩
  split at h
  · rename_i t hfind
    cases h
    exact Or.inl ⟨rfl, rfl, .applicationType _ (Domain.loadsType_of_findType? hfind)⟩
  · exact Or.inr (Build.bind_eq_ok.1 h)

theorem declaredShape_changes {row : RoutineRow} (he : d.engine = s.engine)
    (h : declaredShape s o row d = (.ok returns, d')) :
    Changes o.key d returns.customKey?.toList d' ∧ returns.Named d := by
  rcases declaredShape_eq_ok h with ⟨rfl, hkey, hnamed⟩ | ⟨shape, d₁, hshape, hrest⟩
  · rw [hkey]
    exact ⟨.nil d', hnamed⟩
  · have hfirst := userShape_changes he hshape
    obtain ⟨hwidened, hkey, hnamed⟩ := resolvedShape_changes hrest
    rw [hkey, ← List.append_nil shape.resultKey?.toList]
    refine ⟨hfirst.append hwidened, hnamed.key, ?_⟩
    intro key hkind htype
    have hloads := hnamed.loads key hkind htype
    unfold Domain.LoadsType at hloads ⊢
    rwa [hfirst.frame.findType?] at hloads

theorem returnShape_changes {row : RoutineRow} (he : d.engine = s.engine)
    (hrelated : ∀ key, o.relatedType = some key → d.LoadsType key)
    (h : returnShape s o row d = (.ok returns, d')) :
    Changes o.key d returns.customKey?.toList d' ∧ returns.Named d := by
  unfold returnShape at h
  split at h
  · exact declaredShape_changes he h
  · exact rowShape_changes hrelated h

/-! ## Operations -/

/-- What becomes of a parameter that is compared with the fields of a type: rows stay as they are,
the calling user accepts null, a field is carried, or there is none to carry. -/
inductive Matched (d : Domain) (t : ApplicationType) (p : Parameter) : Parameter → Prop where
  | rows (hrows : p.isResultType = true) : Matched d t p p
  | caller (hvalue : p.isResultType = false) (huser : d.isSecurityUser p = true) :
      Matched d t p p.makeOptional
  | field {f : Field} (hvalue : p.isResultType = false) (hother : d.isSecurityUser p = false)
      (hf : carriedField? d t p = some f) : Matched d t p (p.applyField f)
  | alone (hvalue : p.isResultType = false) (hother : d.isSecurityUser p = false)
      (hf : carriedField? d t p = none) : Matched d t p p

theorem matchedParameter_matched (d : Domain) (t : ApplicationType) (p : Parameter) :
    Matched d t p (matchedParameter d t p) := by
  unfold matchedParameter
  cases hrows : p.isResultType with
  | true => exact .rows hrows
  | false =>
      cases huser : d.isSecurityUser p with
      | true => exact .caller hrows huser
      | false =>
          cases hf : carriedField? d t p with
          | some f => exact .field hrows huser hf
          | none => exact .alone hrows huser hf

theorem matchedParameter_resultType (t : ApplicationType) (p : Parameter) :
    (matchedParameter d t p).resultType = p.resultType := by
  have hmatched := matchedParameter_matched d t p
  generalize matchedParameter d t p = q at hmatched
  cases hmatched <;> rfl

/-- The field that a parameter carries is the first one of its name. -/
theorem field?_of_carriedField? {t : ApplicationType} {p : Parameter} {f : Field}
    (h : carriedField? d t p = some f) : t.field? f.name = some f := by
  -- Every field of the found one's name would have been found in front of it.
  have hfirst : ∀ test : String → Bool, (t.fields.find? fun g => test g.name) = some f →
      t.field? f.name = some f := by
    intro test hfind
    obtain ⟨hf, before, after, hfields, hbefore⟩ := List.find?_eq_some_iff_append.1 hfind
    refine List.find?_eq_some_iff_append.2 ⟨beq_self_eq_true _, before, after, hfields, ?_⟩
    intro g hg
    have hother := hbefore g hg
    rw [Bool.not_eq_true', beq_eq_false_iff_ne]
    intro hsame
    rw [hsame, hf] at hother
    cases hother
  unfold carriedField? at h
  split at h
  · rename_i g hg
    cases h
    exact hfirst (fun name => d.engine.namesEqual name p.name) hg
  · exact hfirst (fun name => d.engine.namesEqual (d.naming.parameterName name) p.name) h

/-- A parameter that was matched carries literally the name of a field. -/
theorem matchedParameter_relatedField {t : ApplicationType} {p : Parameter} {name : String}
    (hp : p.relatedField = none) (h : (matchedParameter d t p).relatedField = some name) :
    ∃ f ∈ t.fields, f.name = name := by
  have hmatched := matchedParameter_matched d t p
  generalize matchedParameter d t p = q at hmatched h
  cases hmatched with
  | field _ _ hf =>
      cases h
      exact ⟨_, List.mem_of_find?_eq_some (field?_of_carriedField? hf), rfl⟩
  | rows _ => exact absurd (hp.symm.trans h) nofun
  | caller _ _ => exact absurd (hp.symm.trans h) nofun
  | alone _ _ _ => exact absurd (hp.symm.trans h) nofun

theorem matchParameters_eq (d : Domain) (o : Operation) :
    ∃ ps, matchParameters d o = { o with parameters := ps } ∧
      ps.filterMap Parameter.resultType = o.parameters.filterMap Parameter.resultType := by
  unfold matchParameters
  cases o.relatedType.bind d.findType? with
  | none => exact ⟨o.parameters, rfl, rfl⟩
  | some t =>
      refine ⟨o.parameters.map (matchedParameter d t), rfl, ?_⟩
      rw [List.filterMap_map]
      congr 1
      funext p
      exact matchedParameter_resultType t p

theorem matchParameters_relatedField (hplain : ∀ p ∈ o.parameters, p.relatedField = none) :
    ∀ p ∈ (matchParameters d o).parameters, ∀ name, p.relatedField = some name →
      ∃ t, o.relatedType.bind d.findType? = some t ∧ ∃ f ∈ t.fields, f.name = name := by
  intro p hp name hname
  unfold matchParameters at hp
  cases hrelated : o.relatedType.bind d.findType? with
  | none =>
      simp only [hrelated] at hp
      rw [hplain p hp] at hname
      cases hname
  | some t =>
      simp only [hrelated] at hp
      obtain ⟨q, hq, rfl⟩ := List.mem_map.1 hp
      exact ⟨t, rfl, matchedParameter_relatedField (hplain q hq) hname⟩

theorem related_loads {row : RoutineRow} {key : TypeKey} (h : related d row = some key) :
    d.LoadsType key := by
  unfold related relatedType at h
  split at h
  · cases h
  split at h
  · rename_i hlookUp
    cases h
    exact Domain.lookUpType?_loads hlookUp
  · cases h

/-- What an operation says about the domain that its routine was loaded into. -/
structure Loaded (row : RoutineRow) (d : Domain) (o : Operation) (d' : Domain) : Prop where
  key : o.key = ⟨row.schema, row.name⟩
  changes : Changes o.key d o.usedKeys d'
  related : ∀ key, o.relatedType = some key → d'.LoadsType key
  returns : o.returns.Named d'
  matched : ∀ p ∈ o.parameters, ∀ name, p.relatedField = some name →
    ∃ t, o.relatedType.bind d'.findType? = some t ∧ ∃ f ∈ t.fields, f.name = name

theorem operation_loaded {row : RoutineRow} (he : d.engine = s.engine)
    (h : operation s row d = (.ok o, d')) : Loaded row d o d' := by
  unfold operation operationAbout at h
  obtain ⟨ps, d₁, hps, hrest⟩ := Build.bind_eq_ok.1 h
  obtain ⟨returns, d₂, hreturns, hlast⟩ := Build.bind_eq_ok.1 hrest
  cases hlast
  obtain ⟨hchanges, hplain⟩ := parameters_changes he hps
  have hrelated : ∀ key, Offline.related d row = some key → d₁.LoadsType key := by
    intro key hkey
    exact hchanges.frame.loadsType (related_loads hkey)
  obtain ⟨hmore, hnamed⟩ := returnShape_changes (hchanges.frame.engine.trans he) hrelated hreturns
  obtain ⟨qs, hmatched, hkeys⟩ := matchParameters_eq d'
    { unshaped row ps (Offline.related d row) with returns := returns }
  constructor
  · rw [hmatched]
    rfl
  · rw [hmatched]
    unfold Operation.usedKeys
    rw [hkeys]
    exact hchanges.append hmore
  · rw [hmatched]
    intro key hkey
    exact hmore.frame.loadsType (hrelated key hkey)
  · rw [hmatched]
    exact hnamed.frame hmore.frame
  · intro p hp name hname
    obtain ⟨t, ht, hf⟩ := matchParameters_relatedField hplain p hp name hname
    rw [hmatched]
    exact ⟨t, ht, hf⟩

end Offline

end SchemaModel
