import SchemaModel.Proofs.Inspection.Registry
import Mathlib.Data.List.Forall2

/-!
# `SchemaModel.Proofs.Inspection.FirstUse` — a result type is what its first use makes it

A routine comes to a result type in one of two ways: it names a user-defined type, as the type of a
parameter or as its declared return type, or it returns several columns, whose shape goes under a
name. Either way, a result type that is there under the name is taken as it stands. So the first
routine that came to a result type settled what it is, and those after it only joined its users.

## Contents
- `Use`: one of the two ways, with the key of the result type. `uses`: those of a routine, in the
  order in which it is loaded; their keys are the operation's `usedKeys`.
- `Use.Settles`: what a first use makes of a result type.
- `FirstUses`: every result type is what its first use makes it. What is reused or widened stays as
  it was (`FirstUses.keep`), and what is added had no use before (`FirstUses.add`).
- `FollowsRoutine`: what an operation says about its routine. `inspect_firstUses`: every inspection
  gives both.
-/

namespace SchemaModel

open Inspection

/-! ## Columns -/

/-- Names and native types of columns, in order. -/
def columnList (rows : List ResultColumnRow) : List (String × String) :=
  rows.map fun c => (c.name, c.nativeType)

/-- Names and native types of the fields, in order. -/
def ResultType.columnList (r : ResultType) : List (String × String) :=
  r.fields.map fun f => (f.name, f.nativeType)

/-- What is settled about a result type once it is there: its key, whether the database has a type
for it, and its columns. -/
def ResultType.outline (r : ResultType) : TypeKey × Bool × List (String × String) :=
  (r.key, r.isCustomType, r.columnList)

theorem ResultType.addOperation_outline (r : ResultType) (user : TypeKey) :
    (r.addOperation user).outline = r.outline := by
  obtain ⟨users, h⟩ := r.addOperation_eq user
  rw [h]
  rfl

theorem Domain.widenedField_column (engine : Engine) (t : ApplicationType) (f : Field) :
    (widenedField engine t f).name = f.name ∧
      (widenedField engine t f).nativeType = f.nativeType := by
  unfold widenedField
  split
  · exact ⟨rfl, rfl⟩
  · exact ⟨rfl, rfl⟩

/-- Widening settles nothing anew. -/
theorem Domain.widenResult_outlines (d : Domain) (key source : TypeKey) :
    (d.widenResult key source).1.resultTypes.map ResultType.outline =
      d.resultTypes.map ResultType.outline := by
  rcases d.widenResult_cases key source with ⟨_, hw⟩ | ⟨t, _, _, _, hw⟩
  · rw [hw]
  · rw [hw]
    refine map_modifyFirst _ _ ResultType.outline ?_ _
    intro r
    unfold ResultType.outline ResultType.columnList
    simp only [List.map_map, Function.comp_def, widenedField_column, ResultType.key]

/-! ## Uses -/

/-- How a routine comes to a result type: by the name of a user-defined type, or with columns whose
shape goes under a name. -/
inductive Use where
  | named (key : TypeKey)
  | shaped (key : TypeKey) (columns : List ResultColumnRow)
  deriving DecidableEq

namespace Use

/-- The key of the result type. -/
def key : Use → TypeKey
  | .named key => key
  | .shaped key _ => key

/-- What the use makes of a result type that was not there before: the catalog's composite of that
key, or a shape of these columns. -/
def Settles (s : CatalogSnapshot) (r : ResultType) : Use → Prop
  | .named key => r.isCustomType = true ∧
      ∃ t, s.compositeAt? key = some t ∧ r.columnList = SchemaModel.columnList t.columns
  | .shaped _ columns => r.isCustomType = false ∧ r.columnList = SchemaModel.columnList columns

/-- Only what is settled about the result type matters. -/
theorem Settles.congr {s : CatalogSnapshot} {r r' : ResultType} {u : Use}
    (hr : r'.outline = r.outline) (h : u.Settles s r) : u.Settles s r' := by
  obtain ⟨_, hcustom, hcolumns⟩ : r'.key = r.key ∧ r'.isCustomType = r.isCustomType ∧
      r'.columnList = r.columnList := by
    simpa only [ResultType.outline, Prod.mk.injEq] using hr
  cases u with
  | named key =>
      unfold Settles at h ⊢
      rw [hcustom, hcolumns]
      exact h
  | shaped key columns =>
      unfold Settles at h ⊢
      rw [hcustom, hcolumns]
      exact h

/-- A result type has the columns of the composite of its name, and counts as one, exactly when its
first use names a user-defined type. -/
theorem Settles.isComposite_iff {s : CatalogSnapshot} {r : ResultType} {u : Use} {t : UserTypeRow}
    (hu : u.Settles s r) (ht : s.compositeAt? u.key = some t) :
    (r.isCustomType = true ∧ r.columnList = SchemaModel.columnList t.columns) ↔
      u = .named u.key := by
  cases u with
  | named key =>
      obtain ⟨hcustom, t', ht', hcolumns⟩ := hu
      cases ht'.symm.trans ht
      exact iff_of_true ⟨hcustom, hcolumns⟩ rfl
  | shaped key columns =>
      refine iff_of_false ?_ nofun
      rintro ⟨hcustom, _⟩
      rw [hu.1] at hcustom
      cases hcustom

end Use

/-- The first use of a key. -/
def firstUse? (uses : List Use) (key : TypeKey) : Option Use := uses.find? fun u => u.key = key

theorem firstUse?_eq_none {uses : List Use} {key : TypeKey} :
    firstUse? uses key = none ↔ ∀ u ∈ uses, u.key ≠ key := by
  unfold firstUse?
  rw [List.find?_eq_none]
  simp only [decide_eq_true_eq, ne_eq]

theorem firstUse?_append {uses more : List Use} {key : TypeKey} :
    firstUse? (uses ++ more) key = (firstUse? uses key).or (firstUse? more key) :=
  List.find?_append

theorem key_of_firstUse? {uses : List Use} {key : TypeKey} {u : Use}
    (h : firstUse? uses key = some u) : u.key = key := by
  have hfound := List.find?_some h
  exact of_decide_eq_true hfound

/-! ## The invariant -/

/-- Every use is of a result type that is there, and every result type is what its first use makes
it. -/
structure FirstUses (s : CatalogSnapshot) (uses : List Use) (d : Domain) : Prop where
  loaded : ∀ u ∈ uses, d.LoadsResultType u.key
  settled : ∀ r ∈ d.resultTypes, ∃ u, firstUse? uses r.key = some u ∧ u.Settles s r

theorem ResultType.map_key (rs : List ResultType) :
    rs.map ResultType.key = (rs.map ResultType.outline).map Prod.fst := by
  rw [List.map_map]
  rfl

namespace FirstUses

variable {s : CatalogSnapshot} {us more : List Use} {d d' : Domain}

theorem append_nil (h : FirstUses s us d) : FirstUses s (us ++ []) d :=
  (List.append_nil us).symm ▸ h

/-- Where nothing new is settled, uses of what is there may be added. -/
theorem keep (h : FirstUses s us d) (he : d'.engine = d.engine)
    (hsame : d'.resultTypes.map ResultType.outline = d.resultTypes.map ResultType.outline)
    (hmore : ∀ u ∈ more, d.LoadsResultType u.key) : FirstUses s (us ++ more) d' where
  loaded := by
    intro u hu
    have hkeys : d'.resultTypes.map ResultType.key = d.resultTypes.map ResultType.key ++ [] := by
      rw [ResultType.map_key, hsame, ← ResultType.map_key, List.append_nil]
    have hold : d.LoadsResultType u.key := by
      rcases List.mem_append.1 hu with hu | hu
      · exact h.loaded u hu
      · exact hmore u hu
    exact hold.of_keys he hkeys
  settled := by
    intro r' hr'
    have hmem : r'.outline ∈ d.resultTypes.map ResultType.outline :=
      hsame ▸ List.mem_map_of_mem hr'
    obtain ⟨r, hr, hrr'⟩ := List.mem_map.1 hmem
    obtain ⟨u, hu, hsettles⟩ := h.settled r hr
    have hkey : r'.key = r.key := (congrArg Prod.fst hrr').symm
    refine ⟨u, ?_, hsettles.congr hrr'.symm⟩
    rw [hkey, firstUse?_append, hu]
    rfl

/-- The operation joins the users of a result type that is there. -/
theorem reuse (h : FirstUses s us d) {key user : TypeKey} {r : ResultType} {u : Use}
    (hfind : d.findResultType? key = some r) (hu : u.key = r.key) :
    FirstUses s (us ++ [u]) (d.modifyResultType key fun r => r.addOperation user) := by
  refine h.keep rfl ?_ ?_
  · exact map_modifyFirst _ _ ResultType.outline (fun r => r.addOperation_outline user) _
  · intro u' hu'
    rw [List.mem_singleton.1 hu', hu]
    exact Domain.loadsResultType_of_findResultType? hfind

/-- A result type that nothing was found for is what the present use makes it. -/
theorem add (h : FirstUses s us d) {r : ResultType} {u : Use}
    (hnew : d.findResultType? r.key = none) (hu : u.key = r.key) (hsettles : u.Settles s r) :
    FirstUses s (us ++ [u]) { d with resultTypes := d.resultTypes ++ [r] } where
  loaded := by
    intro u' hu'
    rcases List.mem_append.1 hu' with hold | hlast
    · have hkeys : (d.resultTypes ++ [r]).map ResultType.key =
          d.resultTypes.map ResultType.key ++ [r.key] := List.map_append
      exact (h.loaded u' hold).of_keys rfl hkeys
    · rw [List.mem_singleton.1 hlast, hu]
      exact Domain.loadsResultType_added hnew
  settled := by
    intro r' hr'
    rcases List.mem_append.1 hr' with hold | hlast
    · obtain ⟨u', hu', hsettled⟩ := h.settled r' hold
      exact ⟨u', by rw [firstUse?_append, hu']; rfl, hsettled⟩
    · rw [List.mem_singleton.1 hlast]
      have hunused : firstUse? us r.key = none := by
        rw [firstUse?_eq_none]
        intro u' hu' hkey
        obtain ⟨r₀, hr₀, _⟩ := h.loaded u' hu'
        rw [hkey, hnew] at hr₀
        cases hr₀
      refine ⟨u, ?_, hsettles⟩
      rw [firstUse?_append, hunused, Option.none_or]
      exact List.find?_cons_of_pos (decide_eq_true hu)

/-- Widening a result type settles nothing. -/
theorem widen (h : FirstUses s us d) (key : TypeKey) (about : Option TypeKey) :
    FirstUses s us (Offline.widened d key about) := by
  cases about with
  | none => exact h
  | some source =>
      have hchange : Change key d none (d.widenResult key source).1 := .widened d key source
      have hkeep : FirstUses s (us ++ []) (d.widenResult key source).1 :=
        h.keep hchange.frame.engine (d.widenResult_outlines key source)
          fun u hu => absurd hu List.not_mem_nil
      rwa [List.append_nil] at hkeep

/-- The result type under a key that was used. -/
theorem exists_settled (h : FirstUses s us d) {u : Use} (hu : u ∈ us) :
    ∃ r, d.findResultType? u.key = some r ∧ r.key = u.key ∧
      ∃ first, firstUse? us u.key = some first ∧ first.Settles s r := by
  obtain ⟨r, hr, hkey⟩ := h.loaded u hu
  refine ⟨r, hr, hkey, ?_⟩
  rw [← hkey]
  exact h.settled r (List.mem_of_find?_eq_some hr)

end FirstUses

namespace Offline

variable {s : CatalogSnapshot} {us : List Use} {user op : TypeKey} {d d' : Domain}

/-! ## User-defined types -/

/-- Fields made of result columns keep their names and native types. -/
theorem resultFields_columns (engine : Engine) (owner : String) (rows : List ResultColumnRow) :
    (resultFields engine owner rows).1.map (fun f => (f.name, f.nativeType)) = columnList rows := by
  rw [resultFields_fst, List.map_map]
  rfl

theorem compositeType_columns (row : UserTypeRow) :
    (compositeType d row user).1.columnList = columnList row.columns :=
  resultFields_columns _ _ _

theorem synthesized_columns (o : Operation) (rows : List ResultColumnRow) :
    (synthesized d o rows).columnList = columnList rows :=
  resultFields_columns _ _ _

theorem userShape_firstUses {key : TypeKey} {shape : UserTypeShape} (he : d.engine = s.engine)
    (hd : FirstUses s us d) (h : userShape s key user d = (.ok shape, d')) :
    FirstUses s (us ++ shape.resultKey?.toList.map .named) d' := by
  cases userShape_looksUp h with
  | found hfind => exact hd.reuse hfind rfl
  | @composite row hnew hrow hkind =>
      have hsame : d.engine.keysEqual row.key key = true :=
        he ▸ CatalogSnapshot.userType?_key hrow
      refine hd.add (findResultType?_none_congr hnew hsame) rfl ⟨rfl, row, ?_, ?_⟩
      · exact CatalogSnapshot.compositeAt?_canonical
          (CatalogSnapshot.compositeAt?_eq_some.2 ⟨hrow, hkind⟩)
      · exact compositeType_columns row
  | other _ _ _ => exact hd.append_nil

/-- Where the catalog lists a composite, its name stands for rows, under a key that is the same to
the engine. -/
theorem userShape_composite {key : TypeKey} {shape : UserTypeShape} {t : UserTypeRow}
    (he : d.engine = s.engine) (ht : s.compositeAt? key = some t)
    (h : userShape s key user d = (.ok shape, d')) :
    ∃ found, shape = .rows found ∧ s.engine.keysEqual found key = true := by
  obtain ⟨hlisted, hcomposite⟩ := CatalogSnapshot.compositeAt?_eq_some.1 ht
  cases userShape_looksUp h with
  | @found r hfind =>
      refine ⟨r.key, rfl, ?_⟩
      rw [← he]
      exact List.find?_some (p := fun r : ResultType => d.engine.keysEqual r.key key) hfind
  | @composite row _ hrow _ => exact ⟨row.key, rfl, CatalogSnapshot.userType?_key hrow⟩
  | other _ hrow hkind =>
      cases hrow.symm.trans hlisted
      exact absurd hcomposite hkind

/-! ## Parameters -/

/-- The result types that parameters carry, as uses of user-defined types. -/
def parameterUses (ps : List Parameter) : List Use :=
  (ps.filterMap Parameter.resultType).map .named

/-- A parameter whose input is declared as a composite carries its rows. -/
def CarriesComposite (s : CatalogSnapshot) (op : TypeKey) (input : ParameterRow) (p : Parameter) :
    Prop :=
  input.isUserDefined = true →
    ∀ t, s.compositeAt? ⟨input.typeSchema.getD op.schema, input.nativeType⟩ = some t →
      ∃ key, p.resultType = some key ∧
        s.engine.keysEqual key ⟨input.typeSchema.getD op.schema, input.nativeType⟩ = true

theorem parameter_firstUses {input : ParameterRow} {p : Parameter} (he : d.engine = s.engine)
    (hd : FirstUses s us d) (h : parameter s op input d = (.ok p, d')) :
    FirstUses s (us ++ p.resultType.toList.map .named) d' ∧ CarriesComposite s op input p := by
  unfold parameter at h
  by_cases huser : input.isUserDefined
  · rw [if_pos huser] at h
    obtain ⟨shape, d₁, hshape, hrest⟩ := Build.bind_eq_ok.1 h
    obtain ⟨hresult, _, rfl⟩ := shapedParameter_eq_ok hrest
    rw [hresult]
    refine ⟨userShape_firstUses he hd hshape, ?_⟩
    intro _ t ht
    obtain ⟨found, rfl, hfound⟩ := userShape_composite he ht hshape
    exact ⟨found, hresult, hfound⟩
  · rw [if_neg huser] at h
    obtain ⟨htyped, rfl⟩ := Build.outcome_eq_ok.1 h
    obtain ⟨hresult, _⟩ := typedParameter_eq_ok htyped
    rw [hresult]
    exact ⟨hd.append_nil, fun hdefined => absurd hdefined huser⟩

theorem parameters_firstUses {inputs : List ParameterRow} {ps : List Parameter}
    (he : d.engine = s.engine) (hd : FirstUses s us d)
    (h : parameters s op inputs d = (.ok ps, d')) :
    FirstUses s (us ++ parameterUses ps) d' ∧ List.Forall₂ (CarriesComposite s op) inputs ps := by
  induction inputs generalizing d ps us with
  | nil =>
      obtain ⟨rfl, rfl⟩ := Build.pure_eq_ok.1 h
      exact ⟨hd.append_nil, .nil⟩
  | cons input rest ih =>
      obtain ⟨p, d₁, hp, hrest⟩ := Build.bind_eq_ok.1 h
      obtain ⟨more, d₂, hmore, hlast⟩ := Build.bind_eq_ok.1 hrest
      obtain ⟨rfl, rfl⟩ := Build.pure_eq_ok.1 hlast
      obtain ⟨hfirst, hcarries⟩ := parameter_firstUses he hd hp
      have he₁ : d₁.engine = s.engine := (parameter_changes he hp).1.frame.engine.trans he
      obtain ⟨hothers, hall⟩ := ih he₁ hfirst hmore
      refine ⟨?_, .cons hcarries hall⟩
      have huses : parameterUses (p :: more) =
          p.resultType.toList.map .named ++ parameterUses more := by
        unfold parameterUses
        cases hkey : p.resultType with
        | none => rw [List.filterMap_cons_none hkey]; rfl
        | some key => rw [List.filterMap_cons_some hkey]; rfl
      rw [huses, ← List.append_assoc]
      exact hothers

/-! ## Return shapes -/

variable {o : Operation} {returns : OperationReturn}

/-- How a routine comes to the result type that it returns: with its output columns, else by its
declared type. -/
def returnUse (s : CatalogSnapshot) (row : RoutineRow) (key : TypeKey) : Use :=
  if (s.resultColumnsOf row).isEmpty then .named key else .shaped key (s.resultColumnsOf row)

theorem returnUse_key (row : RoutineRow) (key : TypeKey) : (returnUse s row key).key = key := by
  unfold returnUse
  split <;> rfl

/-- A routine with several output columns comes to its result type with these. -/
theorem returnUse_shaped {row : RoutineRow} (key : TypeKey)
    (h : 2 ≤ (s.resultColumnsOf row).length) :
    returnUse s row key = .shaped key (s.resultColumnsOf row) := by
  refine if_neg fun hempty => ?_
  rw [List.isEmpty_iff.1 hempty] at h
  cases h

theorem namedRowShape_firstUses {rows : List ResultColumnRow} (hd : FirstUses s us d)
    (h : namedRowShape o rows d = (.ok returns, d')) :
    FirstUses s (us ++ returns.customKey?.toList.map fun key => .shaped key rows) d' := by
  unfold namedRowShape at h
  cases hfind : d.findResultType? (rowTypeKey d o) with
  | some existing =>
      simp only [hfind] at h
      cases h
      exact hd.reuse hfind rfl
  | none =>
      simp only [hfind] at h
      cases h
      refine FirstUses.widen ?_ _ _
      exact hd.add (r := synthesized d o rows) hfind rfl ⟨rfl, synthesized_columns o rows⟩

theorem rowShape_firstUses {rows : List ResultColumnRow} (hd : FirstUses s us d)
    (h : rowShape o rows d = (.ok returns, d')) :
    FirstUses s (us ++ returns.customKey?.toList.map fun key => .shaped key rows) d' := by
  rcases rowShape_eq_ok h with ⟨rfl, hkey, _⟩ | h
  · rw [hkey]
    exact hd.append_nil
  · exact namedRowShape_firstUses hd h

theorem declaredShape_firstUses {row : RoutineRow} (he : d.engine = s.engine)
    (hd : FirstUses s us d) (h : declaredShape s o row d = (.ok returns, d')) :
    FirstUses s (us ++ returns.customKey?.toList.map .named) d' := by
  rcases declaredShape_eq_ok h with ⟨rfl, hkey, _⟩ | ⟨shape, d₁, hshape, hrest⟩
  · rw [hkey]
    exact hd.append_nil
  · have hfirst := userShape_firstUses he hd hshape
    obtain ⟨_, hkey, _⟩ := resolvedShape_changes hrest
    rw [hkey]
    cases shape with
    | rows key =>
        cases hrest
        exact hfirst.widen _ _
    | value valueType =>
        obtain ⟨_, rfl⟩ := Build.pure_eq_ok.1 hrest
        exact hfirst

theorem returnShape_firstUses {row : RoutineRow} (he : d.engine = s.engine)
    (hd : FirstUses s us d) (h : returnShape s o row d = (.ok returns, d')) :
    FirstUses s (us ++ returns.customKey?.toList.map (returnUse s row)) d' := by
  unfold returnShape at h
  split at h
  · rename_i hempty
    have huse : returnUse s row = .named := funext fun _ => if_pos hempty
    rw [huse]
    exact declaredShape_firstUses he hd h
  · rename_i hcolumns
    have huse : returnUse s row = fun key => .shaped key (s.resultColumnsOf row) :=
      funext fun _ => if_neg hcolumns
    rw [huse]
    exact rowShape_firstUses hd h

/-- The declared return type stands for a type that is neither nothing, nor a pseudo-type, nor a
value, nor the rows of a table. -/
structure DeclaresRows (s : CatalogSnapshot) (d : Domain) (row : RoutineRow) : Prop where
  columns : s.resultColumnsOf row = []
  notVoid : s.engine.isVoid row.returnType = false
  notPseudo : isPseudoType (row.returnType.getD "") = false
  notValue : s.engine.valueType? (row.returnType.getD "") = none
  notTable : d.findType? (typeNameKey (row.returnType.getD "") row.schema) = none

/-- A declared composite is returned as rows, under a key that is the same to the engine. -/
theorem returnShape_composite {row : RoutineRow} {t : UserTypeRow} (he : d.engine = s.engine)
    (hschema : o.schema = row.schema) (hrows : DeclaresRows s d row)
    (ht : s.compositeAt? (typeNameKey (row.returnType.getD "") row.schema) = some t)
    (h : returnShape s o row d = (.ok returns, d')) :
    ∃ key, returns = .customType key row.returnsSet ∧
      s.engine.keysEqual key (typeNameKey (row.returnType.getD "") row.schema) = true := by
  unfold returnShape at h
  rw [if_pos (by rw [hrows.columns]; rfl)] at h
  unfold declaredShape at h
  simp only [he, hrows.notVoid, hrows.notPseudo, hrows.notValue, hschema, hrows.notTable] at h
  obtain ⟨shape, d₁, hshape, hrest⟩ := Build.bind_eq_ok.1 h
  obtain ⟨key, rfl, hkey⟩ := userShape_composite he ht hshape
  cases hrest
  exact ⟨key, rfl, hkey⟩

/-! ## Operations -/

/-- The ways in which a routine comes to result types, in order: by its parameters, then by what it
returns. -/
def uses (s : CatalogSnapshot) (row : RoutineRow) (o : Operation) : List Use :=
  parameterUses o.parameters ++ o.returns.customKey?.toList.map (returnUse s row)

theorem uses_keys (row : RoutineRow) (o : Operation) : (uses s row o).map Use.key = o.usedKeys := by
  have hnamed : Use.key ∘ Use.named = id := rfl
  have hreturn : Use.key ∘ returnUse s row = id := funext (returnUse_key row)
  unfold uses parameterUses Operation.usedKeys
  rw [List.map_append, List.map_map, List.map_map, hnamed, hreturn, List.map_id, List.map_id]

/-- What an operation says about the routine that it was read from. -/
structure FollowsRoutine (s : CatalogSnapshot) (d : Domain) (row : RoutineRow) (o : Operation) :
    Prop where
  key : o.key = ⟨row.schema, row.name⟩
  parameters : List.Forall₂ (CarriesComposite s ⟨row.schema, row.name⟩) (inputs s row) o.parameters
  returns : DeclaresRows s d row →
    ∀ t, s.compositeAt? (typeNameKey (row.returnType.getD "") row.schema) = some t →
      ∃ key, o.returns = .customType key row.returnsSet ∧
        s.engine.keysEqual key (typeNameKey (row.returnType.getD "") row.schema) = true

/-- Only the types of a domain matter for what a routine declares. -/
theorem DeclaresRows.of_frame {row : RoutineRow} (h : DeclaresRows s d' row)
    (hfind : ∀ key, d'.findType? key = d.findType? key) : DeclaresRows s d row where
  columns := h.columns
  notVoid := h.notVoid
  notPseudo := h.notPseudo
  notValue := h.notValue
  notTable := hfind _ ▸ h.notTable

/-- What comparison with a type keeps of each parameter, it keeps of all of them. -/
theorem matchParameters_forall₂ {R : ParameterRow → Parameter → Prop} {inputs : List ParameterRow}
    (hR : ∀ input p t, R input p → R input (matchedParameter d t p))
    (h : List.Forall₂ R inputs o.parameters) :
    List.Forall₂ R inputs (matchParameters d o).parameters := by
  unfold matchParameters
  cases o.relatedType.bind d.findType? with
  | none => exact h
  | some t =>
      dsimp only
      rw [List.forall₂_map_right_iff]
      exact h.imp fun input p hp => hR input p t hp

theorem matchParameters_carries {inputs : List ParameterRow} (d : Domain)
    (h : List.Forall₂ (CarriesComposite s op) inputs o.parameters) :
    List.Forall₂ (CarriesComposite s op) inputs (matchParameters d o).parameters := by
  refine matchParameters_forall₂ (fun input p t hp huser row hrow => ?_) h
  rw [matchedParameter_resultType]
  exact hp huser row hrow

theorem operation_firstUses {row : RoutineRow} (he : d.engine = s.engine)
    (hd : FirstUses s us d) (h : operation s row d = (.ok o, d')) :
    FirstUses s (us ++ uses s row o) d' ∧ FollowsRoutine s d row o := by
  unfold operation operationAbout at h
  obtain ⟨ps, d₁, hps, hrest⟩ := Build.bind_eq_ok.1 h
  obtain ⟨returns, d₂, hreturns, hlast⟩ := Build.bind_eq_ok.1 hrest
  cases hlast
  obtain ⟨hfirst, hcarries⟩ := parameters_firstUses he hd hps
  have hframe := (parameters_changes he hps).1.frame
  have he₁ : d₁.engine = s.engine := hframe.engine.trans he
  have hlast := returnShape_firstUses he₁ hfirst hreturns
  obtain ⟨qs, hmatched, hkeys⟩ := matchParameters_eq d'
    { unshaped row ps (Offline.related d row) with returns := returns }
  constructor
  · rw [hmatched]
    unfold uses parameterUses
    rw [hkeys, ← List.append_assoc]
    exact hlast
  · constructor
    · rw [hmatched]
      rfl
    · exact matchParameters_carries d' hcarries
    · intro hrows t ht
      rw [hmatched]
      exact returnShape_composite he₁ rfl (hrows.of_frame fun key => (hframe.findType? key).symm)
        ht hreturns

/-! ## Whole runs -/

/-- The ways in which routines come to result types, one routine after the other. -/
def allUses (s : CatalogSnapshot) (rows : List RoutineRow) (ops : List Operation) : List Use :=
  (List.zipWith (uses s) rows ops).flatten

theorem operationStage_firstUses {rows : List RoutineRow} (he : d.engine = s.engine)
    (hd : FirstUses s us d) (h : operationStage s rows d = (.ok (), d')) :
    ∃ ops, d'.operations = d.operations ++ ops ∧ List.Forall₂ (FollowsRoutine s d') rows ops ∧
      d'.types = d.types ∧ d'.engine = d.engine ∧ FirstUses s (us ++ allUses s rows ops) d' := by
  induction rows generalizing d us with
  | nil =>
      obtain ⟨_, rfl⟩ := Build.pure_eq_ok.1 h
      exact ⟨[], (List.append_nil _).symm, .nil, rfl, rfl, hd.append_nil⟩
  | cons row rest ih =>
      obtain ⟨o, d₁, ho, hrest⟩ := Build.bind_eq_ok.1 h
      rw [Build.act_bind] at hrest
      have hframe := (operation_loaded he ho).changes.frame
      obtain ⟨hfirst, hfollows⟩ := operation_firstUses he hd ho
      -- Where the result types are found does not depend on the operations.
      have hpushed : FirstUses s (us ++ uses s row o)
          { d₁ with operations := d₁.operations ++ [o] } := ⟨hfirst.loaded, hfirst.settled⟩
      have he₁ : ({ d₁ with operations := d₁.operations ++ [o] } : Domain).engine = s.engine :=
        hframe.engine.trans he
      obtain ⟨ops, hops, hall, htypes, hengine, huses⟩ := ih he₁ hpushed hrest
      have hfind : ∀ key, d'.findType? key = d.findType? key := by
        intro key
        unfold Domain.findType?
        rw [htypes, hengine, ← hframe.types, ← hframe.engine]
      refine ⟨o :: ops, ?_, .cons ?_ hall, ?_, ?_, ?_⟩
      · rw [hops, hframe.operations, List.append_assoc]
        rfl
      · exact ⟨hfollows.key, hfollows.parameters,
          fun hrows => hfollows.returns (hrows.of_frame hfind)⟩
      · exact htypes.trans hframe.types
      · exact hengine.trans hframe.engine
      · rw [List.append_assoc] at huses
        exact huses

/-- Whatever the snapshot and the settings, every operation follows its routine, and every result
type is what its first use makes it. -/
theorem inspect_firstUses {settings : Settings} {executed : List String} {start : Domain}
    (h : (run (inspect s.catalog settings) executed start).result = .ok d) :
    List.Forall₂ (FollowsRoutine s d) (s.routineRows settings.excludedSchemas) d.operations ∧
      FirstUses s (allUses s (s.routineRows settings.excludedSchemas) d.operations) d := by
  obtain ⟨d₀, htypes, hoperations⟩ := inspect_eq_ok.1 h
  obtain ⟨hengine, hnone, hresults⟩ := typeStage_blank htypes
  have hstart : FirstUses s [] d₀ := by
    refine ⟨?_, ?_⟩
    · intro u hu
      cases hu
    · intro r hr
      rw [hresults] at hr
      cases hr
  obtain ⟨ops, hops, hall, _, _, huses⟩ := operationStage_firstUses hengine hstart hoperations
  rw [hnone, List.nil_append] at hops
  rw [hops]
  exact ⟨hall, huses⟩

/-! ## Which use comes first -/

theorem allUses_keys {rows : List RoutineRow} {ops : List Operation}
    (h : rows.length = ops.length) :
    (allUses s rows ops).map Use.key = ops.flatMap Operation.usedKeys := by
  induction rows generalizing ops with
  | nil =>
      rw [List.length_eq_zero_iff.1 h.symm]
      rfl
  | cons row rest ih =>
      cases ops with
      | nil => cases h
      | cons o more =>
          have hmore := ih (Nat.succ.inj h)
          unfold allUses at hmore ⊢
          rw [List.zipWith_cons_cons, List.flatten_cons, List.map_append, hmore, uses_keys]
          rfl

/-- Every result type that an operation names is found, and it is what its first use makes it. -/
theorem exists_settled_of_uses {rows : List RoutineRow} {key : TypeKey}
    (hall : List.Forall₂ (FollowsRoutine s d) rows d.operations)
    (huses : FirstUses s (allUses s rows d.operations) d) (ho : o ∈ d.operations)
    (hkey : o.Uses key) :
    ∃ r, d.findResultType? key = some r ∧ r.key = key ∧
      ∃ u, firstUse? (allUses s rows d.operations) key = some u ∧ u.Settles s r := by
  have hmem : key ∈ (allUses s rows d.operations).map Use.key := by
    rw [allUses_keys hall.length_eq]
    exact List.mem_flatMap_of_mem ho (Operation.mem_usedKeys.2 hkey)
  obtain ⟨u, hu, rfl⟩ := List.mem_map.1 hmem
  exact huses.exists_settled hu

theorem firstUse?_uses_eq_none {row : RoutineRow} {key : TypeKey} (h : ¬o.Uses key) :
    firstUse? (uses s row o) key = none := by
  rw [firstUse?_eq_none]
  intro u hu hkey
  apply h
  rw [← Operation.mem_usedKeys, ← uses_keys (s := s) row, ← hkey]
  exact List.mem_map_of_mem hu

theorem firstUse?_parameterUses_eq_none {ps : List Parameter} {key : TypeKey}
    (h : ∀ p ∈ ps, p.resultType ≠ some key) : firstUse? (parameterUses ps) key = none := by
  rw [firstUse?_eq_none]
  intro u hu heq
  obtain ⟨k, hk, rfl⟩ := List.mem_map.1 hu
  obtain ⟨p, hp, hpk⟩ := List.mem_filterMap.1 hk
  exact h p hp (hpk.trans (congrArg some heq))

/-- The return of an operation is the first use of its result type when no operation before it uses
it, and no parameter of its own does. -/
theorem firstUse?_returned {rows : List RoutineRow} {ops : List Operation} {i : Nat}
    {row : RoutineRow} {key : TypeKey} (hrow : rows[i]? = some row) (ho : ops[i]? = some o)
    (hbefore : ∀ j o', j < i → ops[j]? = some o' → ¬o'.Uses key)
    (hparameters : ∀ p ∈ o.parameters, p.resultType ≠ some key)
    (hkey : o.returns.customKey? = some key) :
    firstUse? (allUses s rows ops) key = some (returnUse s row key) := by
  induction i generalizing rows ops with
  | zero =>
      cases rows with
      | nil => cases hrow
      | cons first rest =>
          cases ops with
          | nil => cases ho
          | cons o' more =>
              cases hrow
              cases ho
              have hown : firstUse? [returnUse s row key] key = some (returnUse s row key) :=
                List.find?_cons_of_pos (decide_eq_true (returnUse_key row key))
              unfold allUses uses
              rw [List.zipWith_cons_cons, List.flatten_cons, firstUse?_append, firstUse?_append,
                firstUse?_parameterUses_eq_none hparameters, hkey, Option.none_or]
              show (firstUse? [returnUse s row key] key).or _ = _
              rw [hown]
              rfl
  | succ n ih =>
      -- The first routine does not use the key, so its uses are skipped.
      cases rows with
      | nil => cases hrow
      | cons first rest =>
          cases ops with
          | nil => cases ho
          | cons o' more =>
              have hskip : ¬o'.Uses key := hbefore 0 o' (Nat.succ_pos n) rfl
              have hlater : ∀ j o'', j < n → more[j]? = some o'' → ¬o''.Uses key :=
                fun j o'' hj ho'' => hbefore (j + 1) o'' (Nat.succ_lt_succ hj) ho''
              have hrest : firstUse? (allUses s rest more) key = some (returnUse s row key) :=
                ih hrow ho hlater
              unfold allUses at hrest ⊢
              rw [List.zipWith_cons_cons, List.flatten_cons, firstUse?_append,
                firstUse?_uses_eq_none hskip, Option.none_or]
              exact hrest

end Offline

end SchemaModel
